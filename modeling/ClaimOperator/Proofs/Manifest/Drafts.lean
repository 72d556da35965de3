import ClaimOperator.Cluster.ApiStore
import ClaimOperator.Cluster.Script
import ClaimOperator.Proofs.Manifest.Overlaid

/-! The documents that writes are made of.

A write is an object's manifest laid over a ground: the manifest that was read before it, or an empty
document. A server that puts a version of its own into what it is sent ends up with the manifest of the same
object under that version, over the same ground.
-/

set_option autoImplicit false

namespace ClaimOperator.Manifest

open Json (overlay overlayOn overlayOn_object overlayFields Fits Fields)

/-- A path of keys at which no manifest of the kind has anything. -/
def Unwritten (kind : Kind) (path : List String) : Prop := ∀ object : Object kind, (encode object).at? path = none

def versionPath : List String := ["metadata", "resourceVersion"]

/-- A document says under which version it was written; for no version there is nothing, or null. -/
def Carries (document : Json) : Option String → Prop
  | some version => document.at? versionPath = some (.string version)
  | none => document.at? versionPath = none ∨ document.at? versionPath = some .null

/-- What drafts are laid over while an object is held under a version. -/
def Ground (kind : Kind) (version : Option String) (ground : Json) : Prop :=
  ground = .object [] ∨ ∃ held : Object kind, decode kind ground = .ok held ∧ held.metadata.version = version

section Grounds

variable {kind : Kind} {version : Option String} {ground : Json}

theorem overlay_empty (object : Object kind) : overlay (.object []) (encode object) = encode object := by
  rw [encode, Json.overlay_object, Json.overlayFields_of_apart (by simp [encodeFields])]
  rfl

theorem Ground.fields (under : Ground kind version ground) : ∃ fields, ground = .object fields := by
  obtain rfl | ⟨held, read, -⟩ := under
  · exact ⟨[], rfl⟩
  · obtain ⟨document, accepted, -⟩ := decode_eq_ok.1 read
    cases ground with
    | object fields => exact ⟨fields, rfl⟩
    | _ => cases accepted

theorem Ground.fits (under : Ground kind version ground) (object : Object kind) : Fits ground (encode object) := by
  obtain rfl | ⟨held, read, -⟩ := under
  · exact .fields (by simp [encodeFields]) (fun _ _ _ found => nomatch found)
  · exact fits_of_decode read object

theorem Ground.reads (under : Ground kind version ground) (object : Object kind) :
    ∃ stored : Object kind, decode kind (overlay ground (encode object)) = .ok stored ∧
      (object.metadata.version.isSome → stored.metadata.version = object.metadata.version) := by
  obtain rfl | ⟨held, read, -⟩ := under
  · exact ⟨object, by rw [overlay_empty, decode_encode], fun _ => rfl⟩
  · refine ⟨objectOver object held, decode_overlay read object, fun versioned => ?_⟩
    exact Option.or_of_isSome versioned

theorem Ground.at?_of_unwritten (under : Ground kind version ground) {path : List String}
    (unwritten : Unwritten kind path) (object : Object kind) :
    (overlay ground (encode object)).at? path = ground.at? path := by
  have absent := unwritten object
  rw [Json.at?_overlay (under.fits object) (by simp [absent]), absent, Option.none_or]

theorem at?_versionPath (object : Object kind) :
    (encode object).at? versionPath = object.metadata.version.map .string := by
  obtain ⟨⟨key, finalizers, deletionTime, version⟩, spec, status⟩ := object
  cases deletionTime <;> cases version <;>
    simp [encode, encodeFields, encodeMetadata, present, versionPath, Fields.get?]

theorem null_of_nullable {α : Type} {read : Reader α} {value : Json}
    (accepted : Reader.nullable read value = .valid none) : value = .null := by
  unfold Reader.nullable at accepted
  split at accepted
  · rfl
  · obtain ⟨found, -, wrong⟩ := Checked.map_eq_valid.1 accepted
    cases wrong

theorem carries_none_of_decode {held : Object kind} (read : decode kind ground = .ok held)
    (unversioned : held.metadata.version = none) : Carries ground none := by
  obtain ⟨document, accepted, metadata, -, -⟩ := decode_eq_ok.1 read
  cases ground with
  | object fields =>
    obtain ⟨-, -, named, -⟩ := readDocument_eq_valid.1 accepted
    obtain ⟨current, there, readable⟩ := Label.written_of_required rfl named
    cases current with
    | object inner =>
      obtain ⟨-, -, -, -, versioned⟩ := readMetadata_eq_valid.1 readable
      rw [metadata, unversioned] at versioned
      simp only [Labels.metadata] at there
      simp only [Label.optional, Label.find?, Labels.version] at versioned
      simp only [Carries, versionPath, Json.at?_object_cons, there, Option.bind_some]
      cases written : Fields.get? inner "resourceVersion" with
      | none => exact .inl rfl
      | some value =>
        rw [written] at versioned
        rw [null_of_nullable (Checked.under_eq_valid.1 versioned)]
        exact .inr rfl
    | _ => cases readable
  | _ => cases accepted

theorem Ground.carries (under : Ground kind version ground) {object : Object kind}
    (held : object.metadata.version = version) : Carries (overlay ground (encode object)) version := by
  have written := at?_versionPath object
  rw [held] at written
  have flat : ∀ value, (encode object).at? versionPath = some value → ¬ value.IsObject := by
    rw [written]
    rintro value found ⟨fields, rfl⟩
    cases version <;> cases found
  have drafted := Json.at?_overlay (under.fits object) flat
  rw [written] at drafted
  cases version with
  | some text => exact drafted
  | none =>
    rw [Option.map_none, Option.none_or] at drafted
    unfold Carries
    rw [drafted]
    obtain rfl | ⟨found, read, unversioned⟩ := under
    · exact .inl rfl
    · exact carries_none_of_decode read unversioned

end Grounds

section Stamping

variable {kind : Kind}

theorem overlayFields_encodeFields (below : Fields) (object : Object kind) :
    overlayFields below (encodeFields object) =
      ((((below.put "apiVersion" (overlayOn (below.get? "apiVersion") (.string apiVersion))).put "kind"
        (overlayOn (below.get? "kind") (.string kind.text))).put "metadata"
        (overlayOn (below.get? "metadata") (encodeMetadata object.metadata))).put "spec"
        (overlayOn (below.get? "spec") (encodeSpec object.spec))).put "status"
        (overlayOn (below.get? "status") (encodeStatus object.status)) := by
  simp [encodeFields, Json.overlayFields_cons, Fields.get?_put_of_ne]

theorem put_version_overlayOn (below : Option Json) (metadata : Metadata) (version : String) :
    ∃ fields : Fields, overlayOn below (encodeMetadata metadata) = .object fields ∧
      overlayOn below (encodeMetadata { metadata with version := some version }) =
        .object (fields.put "resourceVersion" (.string version)) := by
  obtain ⟨key, finalizers, deletionTime, held⟩ := metadata
  have distinct (last : Option String) : (((([("name", .string key.name), ("namespace", .string key.space),
      ("finalizers", .array (finalizers.map .string))] : Fields) ++
      present "deletionTimestamp" (deletionTime.map encodeTimestamp)) ++
      present "resourceVersion" (last.map .string)).map Prod.fst).Nodup := by
    cases deletionTime <;> cases last <;> simp [present]
  refine ⟨_, overlayOn_object (distinct held) below, ?_⟩
  -- Up to the version the two lists are one, and a version that is there already gives way to the new one.
  rw [encodeMetadata, overlayOn_object (distinct (some version)), Json.overlayFields_append,
    Json.overlayFields_append _ _ (present _ (held.map _))]
  cases held <;> simp [present, Json.overlayFields_cons, Fields.put_put_self]

theorem stampVersion_overlay (below : Fields) (object : Object kind) (version : String) :
    Cluster.PreparedReply.stampVersion (.string version) (overlay (.object below) (encode object)) =
      overlay (.object below) (encode (object.withVersion (some version))) := by
  obtain ⟨fields, drafted, stamped⟩ := put_version_overlayOn (below.get? "metadata") object.metadata version
  rw [encode, encode, Json.overlay_object, Json.overlay_object, overlayFields_encodeFields,
    overlayFields_encodeFields]
  -- Spec and status come after the metadata, which keeps its place whenever it gets its value.
  simp only [Object.withVersion, drafted, stamped]
  simp [Cluster.PreparedReply.stampVersion, Json.field?, Fields.get?_put_of_ne, Fields.get?_put_self,
    Fields.put_comm_of_get?, Fields.put_put_self]

end Stamping

end ClaimOperator.Manifest

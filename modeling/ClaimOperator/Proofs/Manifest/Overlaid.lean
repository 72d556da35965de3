import ClaimOperator.Proofs.Json.Overlay
import ClaimOperator.Proofs.Manifest.Accepted
import Mathlib.Data.List.Basic

/-! Manifests laid over the manifests that were there before.

What is read from such a document is the upper object, with what its manifest leaves out taken from the
lower one. Fields that no manifest of the kind has stay as they are in the lower document.
-/

set_option autoImplicit false

namespace ClaimOperator.Manifest

open Reader
open Json (overlay overlayOn overlayOn_object overlayFields get?_overlayFields Fits)

section Reading

theorem Label.find?_overlayFields {label : Label} {below fields : Json.Fields}
    (distinct : (fields.map Prod.fst).Nodup)
    (spelled : fields.get? label.written = none → fields.get? label.plain = none) :
    label.find? (overlayFields below fields) =
      match fields.get? label.written with
      | some value => some (label.written, overlayOn (below.get? label.written) value)
      | none => label.find? below := by
  unfold find?
  rw [get?_overlayFields distinct, get?_overlayFields distinct]
  cases written : fields.get? label.written with
  | some value => rfl
  | none => rw [spelled written]

open scoped Labels

attribute [local simp] Label.required Label.optional Label.find?_overlayFields Json.Fields.get? string

theorem readLink_overlayOn (below : Option Json) (link : ObjectKey) :
    readLink (overlayOn below (encodeLink link)) = .valid link := by
  simp [encodeLink, overlayOn_object, readLink_eq_valid]

theorem readLegalEntity_overlayOn (below : Option Json) (entity : LegalEntity) :
    readLegalEntity (overlayOn below (encodeLegalEntity entity)) = .valid entity := by
  simp [encodeLegalEntity, overlayOn_object, readLegalEntity_eq_valid]

theorem readSpec_overlayOn {kind : Kind} (below : Option Json) (spec : kind.Spec) :
    readSpec kind (overlayOn below (encodeSpec spec)) = .valid spec := by
  cases kind with
  | claim =>
    simp [readSpec, encodeSpec, encodeClaimSpec, overlayOn_object, readClaimSpec_eq_valid,
      readLegalEntity_overlayOn, readLink_overlayOn]
  | reference =>
    simp [readSpec, encodeSpec, encodeReferenceSpec, overlayOn_object, readReferenceSpec_eq_valid,
      readLegalEntity_overlayOn, readLink_overlayOn]

/-- Times and versions that are not written are left as they were. -/
def metadataOver (metadata held : Metadata) : Metadata :=
  { metadata with
    deletionTime := metadata.deletionTime.or held.deletionTime
    version := metadata.version.or held.version }

theorem overlayOn_encodeTimestamp (below : Option Json) (stamp : Timestamp) :
    overlayOn below (encodeTimestamp stamp) = encodeTimestamp stamp := Json.overlayOn_string ..

theorem readMetadata_overlayOn {below : Json} {held : Metadata} (read : readMetadata below = .valid held)
    (metadata : Metadata) :
    readMetadata (overlayOn (some below) (encodeMetadata metadata)) = .valid (metadataOver metadata held) := by
  obtain ⟨key, finalizers, deletionTime, version⟩ := metadata
  cases below with
  | object fields =>
    obtain ⟨-, -, -, deleted, versioned⟩ := readMetadata_eq_valid.1 read
    simp only [Label.optional, Labels.deletionTime, Labels.version] at deleted versioned
    cases deletionTime <;> cases version <;>
      simp [metadataOver, encodeMetadata, present, overlayOn_object, Json.fieldsOf, readMetadata_eq_valid, list,
        items_texts, overlayOn_encodeTimestamp, nullable_encodeTimestamp, deleted, versioned]
  | _ => cases read

/-- Conditions that are not written are left as they were. -/
def statusOver : {kind : Kind} → kind.Status → kind.Status → kind.Status
  | .claim, status, held => { status with conditions := status.conditions.or held.conditions }
  | .reference, status, _ => status

theorem resolve_overlay {kind : Kind} {below : Option Json} {document : StatusDocument kind} {held : kind.Status}
    (read : below = none ∧ document = absentStatus kind ∨
      ∃ current, below = some current ∧ readStatus kind current = .valid document)
    (resolved : resolveStatus document = .ok held) (status : kind.Status) :
    ∃ written, readStatus kind (overlayOn below (encodeStatus status)) = .valid written ∧
      resolveStatus written = .ok (statusOver status held) := by
  cases kind with
  | reference =>
    refine ⟨statusDocument status, ?_, resolveStatus_statusDocument status⟩
    simp [readStatus, encodeStatus, encodeReferenceStatus, overlayOn_object, readReferenceStatus_eq_valid,
      statusDocument]
  | claim =>
    obtain ⟨phase, conditions⟩ := status
    cases conditions with
    | some conditions =>
      have items := items_map readCondition_encodeCondition 0 conditions
      refine ⟨@statusDocument .claim ⟨phase, some conditions⟩, ?_, resolveStatus_statusDocument _⟩
      simp [readStatus, encodeStatus, encodeClaimStatus, present, overlayOn_object, readClaimStatus_eq_valid,
        statusDocument, nullable, list, items]
    | none =>
      -- The list below stays, so it has to be resolved once more just as it was.
      have kept : Labels.conditions.optional (nullable (list readCondition)) none (Json.fieldsOf below) =
          .valid document.conditions := by
        obtain ⟨rfl, rfl⟩ | ⟨current, rfl, accepted⟩ := read
        · rfl
        · cases current with
          | object fields => exact (readClaimStatus_eq_valid.1 accepted).2
          | _ => cases accepted
      have found := resolveClaimStatus_eq_ok.1 resolved
      refine ⟨⟨(phase.map ClaimPhase.text).getD "", document.conditions⟩, ?_, ?_⟩
      · simp only [Label.optional, Labels.conditions] at kept
        simp [readStatus, encodeStatus, encodeClaimStatus, present, overlayOn_object, readClaimStatus_eq_valid, kept]
      · exact resolveClaimStatus_eq_ok.2 ⟨resolveClaimPhase_text phase, by simpa [statusOver] using found.2⟩

def objectOver {kind : Kind} (object held : Object kind) : Object kind where
  metadata := metadataOver object.metadata held.metadata
  spec := object.spec
  status := statusOver object.status held.status

theorem decode_overlay {kind : Kind} {below : Json} {held : Object kind} (read : decode kind below = .ok held)
    (object : Object kind) : decode kind (overlay below (encode object)) = .ok (objectOver object held) := by
  obtain ⟨document, accepted, metadata, -, resolved⟩ := decode_eq_ok.1 read
  cases below with
  | object fields =>
    obtain ⟨-, -, named, -, stated⟩ := readDocument_eq_valid.1 accepted
    obtain ⟨current, there, readable⟩ := Label.written_of_required rfl named
    obtain ⟨written, status, resolves⟩ :=
      resolve_overlay (Label.written_of_optional rfl stated) resolved object.status
    simp only [Labels.metadata, Labels.status] at there status
    have whole : readDocument kind (overlay (.object fields) (encode object)) =
        .valid ⟨metadataOver object.metadata document.metadata, object.spec, written⟩ := by
      simp [encode, encodeFields, readDocument_eq_valid, literal, there, status, readMetadata_overlayOn readable,
        readSpec_overlayOn]
    exact decode_eq_ok.2 ⟨_, whole, by rw [metadata]; rfl, rfl, resolves⟩
  | _ => cases accepted

end Reading

section Places

variable {α : Type}

/-- What a reader accepts has no object where the value that is written in its place has none. -/
def Clears (read : Reader α) (value : Json) : Prop :=
  ∀ current result, read current = .valid result → Fits current value

def Flat (read : Reader α) : Prop := ∀ fields result, read (.object fields) ≠ .valid result

theorem Flat.clears {read : Reader α} (flat : Flat read) (value : Json) : Clears read value := by
  intro current result accepted
  apply Fits.bare
  rintro ⟨fields, rfl⟩
  exact flat fields result accepted

theorem flat_string : Flat string := by
  intro fields result accepted
  cases accepted

theorem flat_literal (text : String) : Flat (literal text) := by
  intro fields result accepted
  cases accepted

theorem flat_list (read : Reader α) : Flat (list read) := by
  intro fields result accepted
  cases accepted

theorem flat_timestamp : Flat timestamp := by
  intro fields result accepted
  cases accepted

theorem Flat.nullable {read : Reader α} (flat : Flat read) : Flat (nullable read) := by
  intro fields result accepted
  obtain ⟨value, found, -⟩ := Checked.map_eq_valid.1 accepted
  exact flat fields value found

theorem clears_object {read : Json.Fields → Checked α} {upper : Json.Fields} (distinct : (upper.map Prod.fst).Nodup)
    (parts : ∀ fields result, read fields = .valid result →
      upper.Forall fun field => ∀ current, fields.get? field.1 = some current → Fits current field.2) :
    Clears (object read) (.object upper) := by
  intro current result accepted
  cases current with
  | object fields => exact .fields distinct (List.forall_iff_forall_mem.1 (parts fields result accepted))
  | _ => cases accepted

theorem Label.fits_of_required {label : Label} {read : Reader α} {fields : Json.Fields} {result : α} {value : Json}
    (valid : label.required read fields = .valid result) (clears : Clears read value) :
    ∀ current, fields.get? label.written = some current → Fits current value := by
  intro current there
  unfold required find? at valid
  rw [there] at valid
  exact clears current result (Checked.under_eq_valid.1 valid)

theorem Label.fits_of_optional {label : Label} {read : Reader α} {fields : Json.Fields} {default result : α}
    {value : Json} (valid : label.optional read default fields = .valid result) (clears : Clears read value) :
    ∀ current, fields.get? label.written = some current → Fits current value := by
  intro current there
  unfold optional find? at valid
  rw [there] at valid
  exact clears current result (Checked.under_eq_valid.1 valid)

theorem clears_link (link : ObjectKey) : Clears readLink (encodeLink link) := by
  apply clears_object (by simp)
  intro fields result accepted
  obtain ⟨name, space⟩ := readLink_eq_valid.1 accepted
  exact ⟨Label.fits_of_optional name (flat_string.clears _), Label.fits_of_optional space (flat_string.clears _)⟩

theorem clears_legalEntity (entity : LegalEntity) : Clears readLegalEntity (encodeLegalEntity entity) := by
  apply clears_object (by simp)
  intro fields result accepted
  obtain ⟨name, id⟩ := readLegalEntity_eq_valid.1 accepted
  exact ⟨Label.fits_of_optional name (flat_string.clears _), Label.fits_of_optional id (flat_string.clears _)⟩

theorem clears_metadata (metadata : Metadata) : Clears readMetadata (encodeMetadata metadata) := by
  obtain ⟨key, finalizers, deletionTime, version⟩ := metadata
  apply clears_object (by cases deletionTime <;> cases version <;> simp [present])
  intro fields result accepted
  obtain ⟨name, space, finals, deleted, versioned⟩ := readMetadata_eq_valid.1 accepted
  have named := Label.fits_of_required name (flat_string.clears (.string key.name))
  have spaced := Label.fits_of_optional space (flat_string.clears (.string key.space))
  have finalized := Label.fits_of_optional finals ((flat_list string).clears (.array (finalizers.map .string)))
  have timed (value : Json) := Label.fits_of_optional deleted (flat_timestamp.nullable.clears value)
  have numbered (value : Json) := Label.fits_of_optional versioned (flat_string.nullable.clears value)
  cases deletionTime <;> cases version
  · exact ⟨named, spaced, finalized⟩
  · exact ⟨named, spaced, finalized, numbered _⟩
  · exact ⟨named, spaced, finalized, timed _⟩
  · exact ⟨named, spaced, finalized, timed _, numbered _⟩

theorem clears_spec {kind : Kind} (spec : kind.Spec) : Clears (readSpec kind) (encodeSpec spec) := by
  cases kind with
  | claim =>
    apply clears_object (by simp)
    intro fields result accepted
    obtain ⟨entity, region, secret, project, link⟩ := readClaimSpec_eq_valid.1 accepted
    exact ⟨Label.fits_of_required entity (clears_legalEntity _), Label.fits_of_optional region (flat_string.clears _),
      Label.fits_of_optional secret (clears_link _), Label.fits_of_optional project (flat_string.clears _),
      Label.fits_of_optional link (clears_link _)⟩
  | reference =>
    apply clears_object (by simp)
    intro fields result accepted
    obtain ⟨project, link, entity⟩ := readReferenceSpec_eq_valid.1 accepted
    exact ⟨Label.fits_of_optional project (flat_string.clears _), Label.fits_of_optional link (clears_link _),
      Label.fits_of_required entity (clears_legalEntity _)⟩

theorem clears_status {kind : Kind} (status : kind.Status) : Clears (readStatus kind) (encodeStatus status) := by
  cases kind with
  | claim =>
    obtain ⟨phase, conditions⟩ := status
    apply clears_object (by cases conditions <;> simp [present])
    intro fields result accepted
    obtain ⟨state, listed⟩ := readClaimStatus_eq_valid.1 accepted
    have phased (value : Json) := Label.fits_of_optional state (flat_string.clears value)
    cases conditions with
    | none => exact phased _
    | some conditions =>
      exact ⟨phased _, Label.fits_of_optional listed ((flat_list readCondition).nullable.clears _)⟩
  | reference =>
    apply clears_object (by simp)
    intro fields result accepted
    exact Label.fits_of_optional (readReferenceStatus_eq_valid.1 accepted) (flat_string.clears _)

theorem clears_document {kind : Kind} (object : Object kind) : Clears (readDocument kind) (encode object) := by
  apply clears_object (by simp [encodeFields])
  intro fields result accepted
  obtain ⟨⟨_, api⟩, ⟨_, named⟩, metadata, spec, status⟩ := readDocument_eq_valid.1 accepted
  exact ⟨Label.fits_of_optional api (flat_string.clears _), Label.fits_of_optional named ((flat_literal _).clears _),
    Label.fits_of_required metadata (clears_metadata _), Label.fits_of_required spec (clears_spec _),
    Label.fits_of_optional status (clears_status _)⟩

theorem fits_of_decode {kind : Kind} {below : Json} {held : Object kind} (read : decode kind below = .ok held)
    (object : Object kind) : Fits below (encode object) := by
  obtain ⟨document, accepted, -⟩ := decode_eq_ok.1 read
  exact clears_document object below document accepted

end Places

end ClaimOperator.Manifest

import ClaimOperator.Proofs.Cluster.Writes
import ClaimOperator.Proofs.Manifest.Overlaid

/-! What the documents that a client sends say to whoever reads them.

A write is laid over the document that is remembered. All that the object has is read back from it, however
the remembered document spells its fields and whatever else is in it. Only what a manifest leaves out for want
of a value is still as it was remembered.
-/

set_option autoImplicit false

namespace ClaimOperator

/-- A status in which the conditions, where there are none, are those that were held. -/
def StatusCompletes : {kind : Kind} → (received status held : kind.Status) → Prop
  | .claim, received, status, held =>
    received.phase = status.phase ∧ received.conditions = status.conditions.or held.conditions
  | .reference, received, status, _ => received = status

/-- An object with nothing added but a time, a version and conditions that were held, where it has none. -/
structure Object.Completes {kind : Kind} (received object held : Object kind) : Prop where
  key : received.key = object.key
  finalizers : received.metadata.finalizers = object.metadata.finalizers
  deletionTime : received.metadata.deletionTime = object.metadata.deletionTime.or held.metadata.deletionTime
  version : received.metadata.version = object.metadata.version.or held.metadata.version
  spec : received.spec = object.spec
  status : StatusCompletes received.status object.status held.status

namespace Manifest

theorem completes_objectOver {kind : Kind} (object held : Object kind) :
    (objectOver object held).Completes object held where
  key := rfl
  finalizers := rfl
  deletionTime := rfl
  version := rfl
  spec := rfl
  status := by
    cases kind with
    | claim => exact ⟨rfl, rfl⟩
    | reference => rfl

end Manifest

namespace Cluster

variable {σ : Type} {kind : Kind}

/-- A write that puts the document to the path, and nothing when either of them cannot be written. -/
def Puts (server : Server σ) (client : Client (σ × List Exchange)) (path : String) (document : Json)
    (written : Except Failure (Option String) × Client (σ × List Exchange)) : Prop :=
  match Target.ofPath? path with
  | some target =>
    if isWritable document then
      let request : HttpRequest := ⟨.put, target, some document⟩
      written.2.server.2 = ⟨request, (server request client.server.1).1⟩ :: client.server.2
    else written.2 = client
  | none => written.2 = client

theorem Client.server_receive (key : ObjectKey) (body : Body) (client : Client σ) :
    (client.receive kind key body).2.server = client.server := by
  unfold receive
  split <;> rfl

theorem Client.puts_write (server : Server σ) (client : Client (σ × List Exchange)) (path : String)
    (object : Object kind) (document : Json) :
    Puts server client path document (client.write server.watched .put path object (.ok document)) := by
  unfold Puts write fetch exchange
  cases Target.ofPath? path with
  | none => rfl
  | some target =>
    cases writable : isWritable document with
    | false => simp [writable]
    | true =>
      simp only [Option.map_some, writable, Option.getD_some, if_true, Server.watched]
      split
      · rename_i content reached exchanged
        obtain ⟨-, rfl⟩ := Prod.mk.inj exchanged
        rw [Client.server_receive]
      · rename_i failure reached exchanged
        obtain ⟨-, rfl⟩ := Prod.mk.inj exchanged
        rfl

theorem Client.draft_over {client : Client σ} {object held : Object kind} {below : Json}
    (remembers : client.remembered kind object.key = below) (read : Manifest.decode kind below = .ok held) :
    client.draft object = .ok (Json.overlay below (Manifest.encode object)) := by
  obtain ⟨document, accepted, -⟩ := Manifest.decode_eq_ok.1 read
  cases below with
  | object fields => exact draft_eq_ok (by rw [remembers]; rfl)
  | _ => cases accepted

/-- Whatever document of the kind an object is laid over, the result is read as the object, completed from what
was in the document. A client that remembers the document of its object's key sends just that, in both writes. -/
theorem sent_means_object {below : Json} {held : Object kind} (read : Manifest.decode kind below = .ok held)
    (object : Object kind) :
    (∃ received, Manifest.decode kind (Json.overlay below (Manifest.encode object)) = .ok received ∧
      received.Completes object held) ∧
    ∀ (server : Server σ) (client : Client (σ × List Exchange)) (now : Timestamp),
      client.remembered kind object.key = below →
      Puts server client (objectPath kind object.key) (Json.overlay below (Manifest.encode object))
        (client.serve server.watched (.update object) now) ∧
      Puts server client (statusPath kind object.key) (Json.overlay below (Manifest.encode object))
        (client.serve server.watched (.updateStatus object) now) := by
  refine ⟨⟨_, Manifest.decode_overlay read object, Manifest.completes_objectOver object held⟩, ?_⟩
  intro server client now remembers
  have drafted := Client.draft_over remembers read
  simp only [Client.serve_update, Client.serve_updateStatus, drafted]
  exact ⟨Client.puts_write .., Client.puts_write ..⟩

def respelled : Json :=
  .object
    [("api_version", .string "v0"),
    ("metadata", .object
      [("name", .string "my-claim"), ("labels", .object [("team", .string "platform")]), ("finalizers", .array []),
        ("deletion_timestamp", .integer 0), ("resource_version", .string "6"),
        ("resourceVersion", .string "7")]),
    ("spec", .object
      [("legal_entity", .object [("id", .string "entity-1")]), ("gcp_project_id", .string "stale"),
        ("gcpProjectID", .string "old"), ("project_reference_link", .object [("name", .string "gone")])]),
    ("status", .object [("state", .string "Error"), ("conditions", .array [])])]

def respelledClaim : Claim where
  metadata :=
    { key := ⟨"", "my-claim"⟩
      deletionTime := some .epoch
      version := some "7" }
  spec := { legalEntity := ⟨"", "entity-1"⟩, projectId := "old", referenceLink := ⟨"", "gone"⟩ }
  status := { phase := some .error, conditions := some [] }

def unversionedClaim : Claim where
  metadata := { key := ⟨"customer", "my-claim"⟩, finalizers := ["finalizer.gcp.managed.openshift.io"] }
  spec := { legalEntity := ⟨"Example Corp", "entity-2"⟩, region := "us-east1" }
  status := { phase := some .ready }

def keeper : Client (Unit × List Exchange) := ⟨((), []), [⟨.claim, unversionedClaim.key, respelled⟩]⟩

/-- No plain spelling that is left in the document wins over what was written. -/
theorem unversioned_over_respelled :
    Manifest.decode .claim respelled = .ok respelledClaim ∧
    (∃ received : Claim,
      Manifest.decode .claim (Json.overlay respelled (Manifest.encode unversionedClaim)) = .ok received ∧
      received.metadata.version = some "7" ∧ received.spec = unversionedClaim.spec ∧
      received.status.phase = some .ready ∧ received.status.conditions = some []) ∧
    ∀ server : Server Unit,
      Puts server keeper (objectPath .claim unversionedClaim.key)
        (Json.overlay respelled (Manifest.encode unversionedClaim))
        (keeper.serve server.watched (.update unversionedClaim) .epoch) := by
  have read : Manifest.decode .claim respelled = .ok respelledClaim := by rfl
  obtain ⟨⟨received, sent, completes⟩, puts⟩ := sent_means_object (σ := Unit) read unversionedClaim
  obtain ⟨phase, conditions⟩ := completes.status
  refine ⟨read, ⟨received, sent, completes.version, completes.spec, phase, conditions⟩, fun server => ?_⟩
  exact (puts server keeper .epoch (by rfl)).1

end Cluster

end ClaimOperator

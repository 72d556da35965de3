import ClaimOperator.Proofs.Manifest.RoundTrip
import Mathlib.Logic.Basic

/-! Documents that are accepted, field by field.

A reader accepts a document when it accepts every field that it asks for, so what was read says what
each of them held.
-/

set_option autoImplicit false

namespace ClaimOperator.Manifest

open Reader

namespace Checked

variable {α β : Type}

theorem map_eq_valid {f : α → β} {x : Checked α} {result : β} :
    f <$> x = valid result ↔ ∃ value, x = valid value ∧ f value = result := by
  cases x with
  | valid value => simp
  | invalid issues => exact ⟨nofun, nofun⟩

theorem seq_eq_valid {f : Checked (α → β)} {x : Checked α} {result : β} :
    f <*> x = valid result ↔ ∃ apply value, f = valid apply ∧ x = valid value ∧ apply value = result := by
  cases f with
  | valid apply =>
    cases x with
    | valid value => simp
    | invalid issues => exact ⟨nofun, nofun⟩
  | invalid issues => cases x <;> exact ⟨nofun, nofun⟩

theorem under_eq_valid {segment : Segment} {x : Checked α} {result : α} :
    x.under segment = valid result ↔ x = valid result := by
  cases x <;> simp [under]

end Checked

section Labels

variable {α : Type} {label : Label} {read : Reader α} {fields : Json.Fields} {default result : α}

theorem Label.written_of_required (plain : label.plain = label.written)
    (valid : label.required read fields = .valid result) :
    ∃ value, fields.get? label.written = some value ∧ read value = .valid result := by
  unfold required find? at valid
  rw [plain] at valid
  cases written : fields.get? label.written with
  | none => rw [written] at valid; cases valid
  | some value =>
    rw [written] at valid
    exact ⟨value, rfl, Checked.under_eq_valid.1 valid⟩

theorem Label.written_of_optional (plain : label.plain = label.written)
    (valid : label.optional read default fields = .valid result) :
    fields.get? label.written = none ∧ result = default ∨
      ∃ value, fields.get? label.written = some value ∧ read value = .valid result := by
  unfold optional find? at valid
  rw [plain] at valid
  cases written : fields.get? label.written with
  | none =>
    rw [written] at valid
    cases valid
    exact .inl ⟨rfl, rfl⟩
  | some value =>
    rw [written] at valid
    exact .inr ⟨value, rfl, Checked.under_eq_valid.1 valid⟩

end Labels

section Accepted

variable {fields : Json.Fields}

theorem readLink_eq_valid {link : ObjectKey} :
    readLink (.object fields) = .valid link ↔
      Labels.name.optional string "" fields = .valid link.name ∧
      Labels.space.optional string "" fields = .valid link.space := by
  cases link
  simp [readLink, object, Checked.seq_eq_valid, Checked.map_eq_valid]

theorem readLegalEntity_eq_valid {entity : LegalEntity} :
    readLegalEntity (.object fields) = .valid entity ↔
      Labels.name.optional string "" fields = .valid entity.name ∧
      Labels.id.optional string "" fields = .valid entity.id := by
  cases entity
  simp [readLegalEntity, object, Checked.seq_eq_valid, Checked.map_eq_valid]

theorem readMetadata_eq_valid {metadata : Metadata} :
    readMetadata (.object fields) = .valid metadata ↔
      Labels.name.required string fields = .valid metadata.key.name ∧
      Labels.space.optional string "" fields = .valid metadata.key.space ∧
      Labels.finalizers.optional (list string) [] fields = .valid metadata.finalizers ∧
      Labels.deletionTime.optional (nullable timestamp) none fields = .valid metadata.deletionTime ∧
      Labels.version.optional (nullable string) none fields = .valid metadata.version := by
  obtain ⟨⟨space, name⟩, finalizers, deletionTime, version⟩ := metadata
  simp [readMetadata, object, Checked.seq_eq_valid, Checked.map_eq_valid, and_assoc]

theorem readClaimSpec_eq_valid {spec : ClaimSpec} :
    readClaimSpec (.object fields) = .valid spec ↔
      Labels.legalEntity.required readLegalEntity fields = .valid spec.legalEntity ∧
      Labels.region.optional string "" fields = .valid spec.region ∧
      Labels.credentialSecret.optional readLink {} fields = .valid spec.credentialSecret ∧
      Labels.projectId.optional string "" fields = .valid spec.projectId ∧
      Labels.referenceLink.optional readLink {} fields = .valid spec.referenceLink := by
  cases spec
  simp [readClaimSpec, object, Checked.seq_eq_valid, Checked.map_eq_valid, and_assoc]

theorem readReferenceSpec_eq_valid {spec : ReferenceSpec} :
    readReferenceSpec (.object fields) = .valid spec ↔
      Labels.projectId.optional string "" fields = .valid spec.projectId ∧
      Labels.claimLink.optional readLink {} fields = .valid spec.claimLink ∧
      Labels.legalEntity.required readLegalEntity fields = .valid spec.legalEntity := by
  cases spec
  simp [readReferenceSpec, object, Checked.seq_eq_valid, Checked.map_eq_valid]

theorem readClaimStatus_eq_valid {status : ClaimStatusDocument} :
    readClaimStatus (.object fields) = .valid status ↔
      Labels.state.optional string "" fields = .valid status.state ∧
      Labels.conditions.optional (nullable (list readCondition)) none fields = .valid status.conditions := by
  cases status
  simp [readClaimStatus, object, Checked.seq_eq_valid, Checked.map_eq_valid]

theorem readReferenceStatus_eq_valid {status : ReferenceStatusDocument} :
    readReferenceStatus (.object fields) = .valid status ↔
      Labels.state.optional string "" fields = .valid status.state := by
  cases status
  simp [readReferenceStatus, object, Checked.map_eq_valid]

theorem readDocument_eq_valid {kind : Kind} {document : Document kind} :
    readDocument kind (.object fields) = .valid document ↔
      (∃ version, Labels.apiVersion.optional string apiVersion fields = .valid version) ∧
      (∃ named, Labels.kind.optional (literal kind.text) () fields = .valid named) ∧
      Labels.metadata.required readMetadata fields = .valid document.metadata ∧
      Labels.spec.required (readSpec kind) fields = .valid document.spec ∧
      Labels.status.optional (readStatus kind) (absentStatus kind) fields = .valid document.status := by
  cases document
  simp [readDocument, object, Checked.seq_eq_valid, Checked.map_eq_valid, and_assoc]

theorem decode_eq_ok {kind : Kind} {payload : Json} {object : Object kind} :
    decode kind payload = .ok object ↔
      ∃ document, readDocument kind payload = .valid document ∧ document.metadata = object.metadata ∧
        document.spec = object.spec ∧ resolveStatus document.status = .ok object.status := by
  unfold decode
  cases read : readDocument kind payload with
  | invalid issues => simp
  | valid document =>
    cases resolved : resolveStatus document.status with
    | error error => simp [bind, Except.bind, resolved]
    | ok status =>
      cases object
      simp [bind, Except.bind, pure, Except.pure, resolved]

theorem resolveClaimStatus_eq_ok {document : ClaimStatusDocument} {status : ClaimStatus} :
    resolveClaimStatus document = .ok status ↔
      resolveClaimPhase document.state = .ok status.phase ∧
      (document.conditions = none ∧ status.conditions = none ∨
        ∃ documents conditions, document.conditions = some documents ∧ status.conditions = some conditions ∧
          resolveConditions documents = .ok conditions) := by
  obtain ⟨state, documents⟩ := document
  obtain ⟨phase, conditions⟩ := status
  cases read : resolveClaimPhase state with
  | error error => simp [resolveClaimStatus, bind, Except.bind, read]
  | ok found =>
    cases documents with
    | none => simp [resolveClaimStatus, bind, Except.bind, pure, Except.pure, read, eq_comm]
    | some documents =>
      cases resolved : resolveConditions documents <;>
        simp [resolveClaimStatus, bind, Except.bind, pure, Except.pure, read, resolved, eq_comm]

end Accepted

end ClaimOperator.Manifest

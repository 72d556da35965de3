import ClaimOperator.Manifest.Codec
import ClaimOperator.Proofs.Time.RoundTrip

/-! Every object is read back from its manifest, as it was. -/

set_option autoImplicit false

namespace ClaimOperator.Manifest

open Reader

namespace Checked

variable {α β : Type}

@[simp] theorem map_valid (f : α → β) (value : α) : f <$> valid value = valid (f value) := rfl

@[simp] theorem valid_seq_valid (f : α → β) (value : α) : valid f <*> valid value = valid (f value) := rfl

@[simp] theorem under_valid (segment : Segment) (value : α) : (valid value).under segment = valid value := rfl

end Checked

section Written

open scoped Labels

attribute [local simp] Label.required Label.optional Label.find? Json.Fields.get? object string bind Except.bind pure
  Except.pure

theorem readLink_encodeLink (link : ObjectKey) : readLink (encodeLink link) = .valid link := by
  simp [readLink, encodeLink]

theorem readLegalEntity_encodeLegalEntity (entity : LegalEntity) :
    readLegalEntity (encodeLegalEntity entity) = .valid entity := by
  simp [readLegalEntity, encodeLegalEntity]

theorem timestamp_encodeTimestamp (stamp : Timestamp) : timestamp (encodeTimestamp stamp) = .valid stamp := by
  simp [timestamp, encodeTimestamp, Timestamp.ofJson, Timestamp.ofText_write]

theorem nullable_encodeTimestamp (stamp : Timestamp) :
    nullable timestamp (encodeTimestamp stamp) = .valid (some stamp) := by
  have read := timestamp_encodeTimestamp stamp
  unfold encodeTimestamp at read ⊢
  simp [nullable, read]

@[simp] theorem nullable_string (text : String) : nullable string (.string text) = .valid (some text) := rfl

theorem items_map {α β : Type} {read : Reader β} {write : α → Json} {result : α → β}
    (readable : ∀ item, read (write item) = .valid (result item)) (position : Nat) (values : List α) :
    items read position (values.map write) = .valid (values.map result) := by
  induction values generalizing position with
  | nil => rfl
  | cons value rest ih => simp [items, readable, ih]

theorem items_texts (position : Nat) (texts : List String) :
    items string position (texts.map Json.string) = .valid texts := by
  have readString : ∀ text, string (.string text) = .valid (id text) := fun _ => rfl
  have read := items_map readString position texts
  rwa [List.map_id] at read

theorem readMetadata_encodeMetadata (metadata : Metadata) :
    readMetadata (encodeMetadata metadata) = .valid metadata := by
  obtain ⟨key, finalizers, deletionTime, version⟩ := metadata
  cases deletionTime <;> cases version <;>
    simp [readMetadata, encodeMetadata, present, list, items_texts, nullable_encodeTimestamp]

theorem readSpec_encodeSpec {kind : Kind} (spec : kind.Spec) : readSpec kind (encodeSpec spec) = .valid spec := by
  cases kind with
  | claim =>
    simp [readSpec, encodeSpec, readClaimSpec, encodeClaimSpec, readLegalEntity_encodeLegalEntity, readLink_encodeLink]
  | reference =>
    simp [readSpec, encodeSpec, readReferenceSpec, encodeReferenceSpec, readLegalEntity_encodeLegalEntity,
      readLink_encodeLink]

def conditionDocument (condition : Condition) : ConditionDocument where
  type := condition.type
  status := condition.status.text
  reason := condition.reason
  message := condition.message
  transitionTime := some condition.transitionTime
  probeTime := some condition.probeTime

theorem readCondition_encodeCondition (condition : Condition) :
    readCondition (encodeCondition condition) = .valid (conditionDocument condition) := by
  simp [readCondition, encodeCondition, conditionDocument, nullable_encodeTimestamp]

theorem resolveConditions_documents (conditions : List Condition) :
    resolveConditions (conditions.map conditionDocument) = .ok conditions := by
  induction conditions with
  | nil => rfl
  | cons condition rest ih =>
    have named : ConditionStatus.ofText? condition.status.text = some condition.status := Enumeration.ofText?_text _
    simp [resolveConditions, resolveCondition, conditionDocument, named, ih]

theorem resolveClaimPhase_text (phase : Option ClaimPhase) :
    resolveClaimPhase ((phase.map ClaimPhase.text).getD "") = .ok phase := by
  cases phase with
  | none => rfl
  | some phase => cases phase <;> decide

theorem resolveReferencePhase_text (phase : Option ReferencePhase) :
    resolveReferencePhase ((phase.map ReferencePhase.text).getD "") = .ok phase := by
  cases phase with
  | none => rfl
  | some phase => cases phase <;> decide

def statusDocument : {kind : Kind} → kind.Status → StatusDocument kind
  | .claim, status => ⟨(status.phase.map ClaimPhase.text).getD "", status.conditions.map (·.map conditionDocument)⟩
  | .reference, status => ⟨(status.phase.map ReferencePhase.text).getD ""⟩

theorem readStatus_encodeStatus {kind : Kind} (status : kind.Status) :
    readStatus kind (encodeStatus status) = .valid (statusDocument status) := by
  cases kind with
  | claim =>
    obtain ⟨phase, conditions⟩ := status
    cases conditions with
    | none =>
      simp [readStatus, encodeStatus, readClaimStatus, encodeClaimStatus, statusDocument, present]
    | some conditions =>
      have read := items_map readCondition_encodeCondition 0 conditions
      simp [readStatus, encodeStatus, readClaimStatus, encodeClaimStatus, statusDocument, present, nullable, list, read]
  | reference =>
    simp [readStatus, encodeStatus, readReferenceStatus, encodeReferenceStatus, statusDocument]

theorem resolveStatus_statusDocument {kind : Kind} (status : kind.Status) :
    resolveStatus (statusDocument status) = .ok status := by
  cases kind with
  | claim =>
    obtain ⟨phase, conditions⟩ := status
    cases conditions with
    | none =>
      simp [resolveStatus, resolveClaimStatus, statusDocument, resolveClaimPhase_text]
    | some conditions =>
      simp [resolveStatus, resolveClaimStatus, statusDocument, resolveClaimPhase_text, resolveConditions_documents]
  | reference =>
    simp [resolveStatus, resolveReferenceStatus, statusDocument, resolveReferencePhase_text]

theorem decode_encode {kind : Kind} (object : Object kind) : decode kind (encode object) = .ok object := by
  have document : readDocument kind (encode object) =
      .valid ⟨object.metadata, object.spec, statusDocument object.status⟩ := by
    simp [readDocument, encode, encodeFields, literal, readMetadata_encodeMetadata, readSpec_encodeSpec,
      readStatus_encodeStatus]
  simp [decode, document, resolveStatus_statusDocument]

end Written

/-- The type of objects is the form that a manifest keeps: texts and lists of any length, a phase or none, conditions
or none, times that are naive or have a whole-minute offset below a day. A payload may leave things out or spell them
otherwise; once it is read, writing and reading again change nothing. -/
theorem decode_inverts_encode (kind : Kind) :
    (∀ object : Object kind, decode kind (encode object) = .ok object) ∧
    ∀ (payload : Json) (object : Object kind), decode kind payload = .ok object →
      decode kind (encode object) = decode kind payload ∧
      (decode kind (encode object)).map encode = .ok (encode object) := by
  refine ⟨decode_encode, fun payload object read => ⟨?_, ?_⟩⟩
  · rw [decode_encode, read]
  · rw [decode_encode]
    rfl

/-- Plain spellings, a field that nothing reads, a time in seconds and a condition that was never probed. -/
def loosePayload : Json :=
  .object
    [("metadata", .object
      [("name", .string "my-claim"), ("labels", .object []), ("deletion_timestamp", .integer 1714521600),
        ("resource_version", .string "7")]),
    ("spec", .object [("legal_entity", .object [("id", .string "entity-1")])]),
    ("status", .object [("conditions", .array [.object
      [("type", .string "Validated"), ("status", .string "Unknown"),
        ("last_transition_time", .string "2024-05-01t12:30:15.25-0530")]])])]

def looseClaim : Claim where
  metadata :=
    { key := ⟨"", "my-claim"⟩
      deletionTime := some ⟨{ year := 2024, month := 5, day := 1 }, .midnight, some .utc⟩
      version := some "7" }
  spec := { legalEntity := ⟨"", "entity-1"⟩ }
  status :=
    { conditions := some [
        { type := "Validated"
          status := .unknown
          reason := ""
          message := ""
          transitionTime :=
            ⟨{ year := 2024, month := 5, day := 1 }, { hour := 12, minute := 30, second := 15, micros := 250000 },
              some { minutes := -330 }⟩
          probeTime := .epoch }] }

theorem loosePayload_settles :
    decode .claim loosePayload = .ok looseClaim ∧
    decode .claim (encode looseClaim) = decode .claim loosePayload ∧
    (decode .claim (encode looseClaim)).map encode = .ok (encode looseClaim) :=
  have read : decode .claim loosePayload = .ok looseClaim := by rfl
  ⟨read, (decode_inverts_encode .claim).2 loosePayload looseClaim read⟩

end ClaimOperator.Manifest

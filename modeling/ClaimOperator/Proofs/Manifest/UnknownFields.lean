import ClaimOperator.Manifest.Codec

/-! Documents that differ in unknown fields only.

A schema says which fields are known at each place of a document; each is known under both of its spellings. Two
documents are alike under it if they have the same in all the known places. What else their objects hold may be
anything, and so may the order of the fields. No reader tells alike documents apart, nor do the names that are
resolved afterwards, so the outcome is the same: the object, or the error with all its issues in their order.
-/

set_option autoImplicit false

namespace ClaimOperator.Manifest

inductive Schema where
  | list (item : Schema)
  | record (known : List (Label × Schema))

namespace Schema

/-- The place of a text or a time. An object that stands there has no known field. -/
def plain : Schema := record []

def link : Schema := record [(Labels.name, plain), (Labels.space, plain)]

def legalEntity : Schema := record [(Labels.name, plain), (Labels.id, plain)]

def metadata : Schema :=
  record
    [(Labels.name, plain), (Labels.space, plain), (Labels.finalizers, list plain), (Labels.deletionTime, plain),
      (Labels.version, plain)]

def spec : Kind → Schema
  | .claim =>
    record
      [(Labels.legalEntity, legalEntity), (Labels.region, plain), (Labels.credentialSecret, link),
        (Labels.projectId, plain), (Labels.referenceLink, link)]
  | .reference =>
    record [(Labels.projectId, plain), (Labels.claimLink, link), (Labels.legalEntity, legalEntity)]

def condition : Schema :=
  record
    [(Labels.type, plain), (Labels.status, plain), (Labels.reason, plain), (Labels.message, plain),
      (Labels.transitionTime, plain), (Labels.probeTime, plain)]

def status : Kind → Schema
  | .claim => record [(Labels.state, plain), (Labels.conditions, list condition)]
  | .reference => record [(Labels.state, plain)]

def document (kind : Kind) : Schema :=
  record
    [(Labels.apiVersion, plain), (Labels.kind, plain), (Labels.metadata, metadata), (Labels.spec, spec kind),
      (Labels.status, status kind)]

end Schema

def Label.spellings (label : Label) : List String := [label.written, label.plain]

/-- The same in every place that the schema knows. -/
inductive Alike : Schema → Json → Json → Prop
  | same {schema : Schema} (value : Json) : Alike schema value value
  | cons {item : Schema} {first first' : Json} {rest rest' : List Json} :
    Alike item first first' → Alike (.list item) (.array rest) (.array rest') →
    Alike (.list item) (.array (first :: rest)) (.array (first' :: rest'))
  | record {known : List (Label × Schema)} {fields fields' : Json.Fields} :
    (∀ field ∈ known, ∀ name ∈ field.1.spellings, (fields.get? name).isSome = (fields'.get? name).isSome) →
    (∀ field ∈ known, ∀ name ∈ field.1.spellings, ∀ value ∈ fields.get? name, ∀ value' ∈ fields'.get? name,
      Alike field.2 value value') →
    Alike (.record known) (.object fields) (.object fields')

abbrev FieldsAlike (known : List (Label × Schema)) (fields fields' : Json.Fields) : Prop :=
  Alike (.record known) (.object fields) (.object fields')

/-- A reader that looks at nothing but what the schema knows. -/
def Reader.Heeds {α : Type} (schema : Schema) (read : Reader α) : Prop :=
  ∀ value value', Alike schema value value' → read value = read value'

open Reader

section Combinators

variable {α : Type} {schema : Schema} {read : Reader α}

theorem heeds_plain (refuses : ∀ fields fields', read (.object fields) = read (.object fields')) :
    read.Heeds .plain := by
  intro value value' alike
  cases alike with
  | same => rfl
  | record => apply refuses

theorem heeds_string : string.Heeds .plain := heeds_plain fun _ _ => rfl

theorem heeds_literal (expected : String) : (literal expected).Heeds .plain := heeds_plain fun _ _ => rfl

theorem heeds_timestamp : timestamp.Heeds .plain := heeds_plain fun _ _ => rfl

theorem Reader.Heeds.nullable (heeds : read.Heeds schema) : (nullable read).Heeds schema := by
  intro value value' alike
  have read_eq := heeds value value' alike
  cases alike with
  | same => rfl
  | cons => simp only [Reader.nullable, read_eq]
  | record => simp only [Reader.nullable, read_eq]

theorem Reader.Heeds.items (heeds : read.Heeds schema) {values values' : List Json}
    (alike : Alike (.list schema) (.array values) (.array values')) (position : Nat) :
    items read position values = items read position values' := by
  induction values generalizing values' position with
  | nil => cases alike; rfl
  | cons first rest ih =>
    cases alike with
    | same => rfl
    | cons first_alike rest_alike => simp only [Reader.items, heeds _ _ first_alike, ih rest_alike]

theorem Reader.Heeds.list (heeds : read.Heeds schema) : (list read).Heeds (.list schema) := by
  intro value value' alike
  cases alike with
  | same => rfl
  | cons first rest => exact heeds.items (.cons first rest) 0

theorem heeds_object {known : List (Label × Schema)} {read : Json.Fields → Checked α}
    (heeds : ∀ fields fields', FieldsAlike known fields fields' → read fields = read fields') :
    (object read).Heeds (.record known) := by
  intro value value' alike
  cases alike with
  | same => rfl
  | record present held => exact heeds _ _ (.record present held)

end Combinators

section Fields

variable {α : Type} {known : List (Label × Schema)} {fields fields' : Json.Fields} {schema : Schema} {read : Reader α}

theorem FieldsAlike.get? (alike : FieldsAlike known fields fields') {label : Label}
    (member : (label, schema) ∈ known) {name : String} (spelled : name ∈ label.spellings) :
    fields.get? name = none ∧ fields'.get? name = none ∨
      ∃ value value', fields.get? name = some value ∧ fields'.get? name = some value' ∧
        Alike schema value value' := by
  cases alike with
  | same =>
    cases found : fields.get? name with
    | none => exact .inl ⟨rfl, rfl⟩
    | some value => exact .inr ⟨value, value, rfl, rfl, .same value⟩
  | record present held =>
    have present := present _ member name spelled
    have held := held _ member name spelled
    cases found : fields.get? name <;> cases found' : fields'.get? name <;> simp [found, found'] at present
    · exact .inl ⟨rfl, rfl⟩
    · exact .inr ⟨_, _, rfl, rfl, held _ found _ found'⟩

theorem FieldsAlike.find? (alike : FieldsAlike known fields fields') {label : Label}
    (member : (label, schema) ∈ known) :
    label.find? fields = none ∧ label.find? fields' = none ∨
      ∃ name value value', label.find? fields = some (name, value) ∧ label.find? fields' = some (name, value') ∧
        Alike schema value value' := by
  have written : label.written ∈ label.spellings := by simp [Label.spellings]
  have plain : label.plain ∈ label.spellings := by simp [Label.spellings]
  unfold Label.find?
  rcases alike.get? member written with ⟨absent, absent'⟩ | ⟨value, value', found, found', held⟩
  · rw [absent, absent']
    rcases alike.get? member plain with ⟨absent, absent'⟩ | ⟨value, value', found, found', held⟩
    · simp [absent, absent']
    · exact .inr ⟨label.plain, value, value', by simp [found], by simp [found'], held⟩
  · exact .inr ⟨label.written, value, value', by simp [found], by simp [found'], held⟩

theorem FieldsAlike.required (alike : FieldsAlike known fields fields') (label : Label)
    (member : (label, schema) ∈ known) (heeds : read.Heeds schema) :
    label.required read fields = label.required read fields' := by
  unfold Label.required
  rcases alike.find? member with ⟨absent, absent'⟩ | ⟨name, value, value', found, found', held⟩
  · rw [absent, absent']
  · simp only [found, found', heeds value value' held]

theorem FieldsAlike.optional (alike : FieldsAlike known fields fields') (label : Label)
    (member : (label, schema) ∈ known) (heeds : read.Heeds schema) (default : α) :
    label.optional read default fields = label.optional read default fields' := by
  unfold Label.optional
  rcases alike.find? member with ⟨absent, absent'⟩ | ⟨name, value, value', found, found', held⟩
  · rw [absent, absent']
  · simp only [found, found', heeds value value' held]

end Fields

theorem heeds_link : readLink.Heeds .link := by
  apply heeds_object
  intro fields fields' alike
  rw [alike.optional Labels.name (by simp) heeds_string, alike.optional Labels.space (by simp) heeds_string]

theorem heeds_legalEntity : readLegalEntity.Heeds .legalEntity := by
  apply heeds_object
  intro fields fields' alike
  rw [alike.optional Labels.name (by simp) heeds_string, alike.optional Labels.id (by simp) heeds_string]

theorem heeds_metadata : readMetadata.Heeds .metadata := by
  apply heeds_object
  intro fields fields' alike
  rw [alike.required Labels.name (by simp) heeds_string, alike.optional Labels.space (by simp) heeds_string,
    alike.optional Labels.finalizers (by simp) heeds_string.list,
    alike.optional Labels.deletionTime (by simp) heeds_timestamp.nullable,
    alike.optional Labels.version (by simp) heeds_string.nullable]

theorem heeds_claimSpec : readClaimSpec.Heeds (.spec .claim) := by
  apply heeds_object
  intro fields fields' alike
  rw [alike.required Labels.legalEntity (by simp) heeds_legalEntity,
    alike.optional Labels.region (by simp) heeds_string,
    alike.optional Labels.credentialSecret (by simp) heeds_link,
    alike.optional Labels.projectId (by simp) heeds_string,
    alike.optional Labels.referenceLink (by simp) heeds_link]

theorem heeds_referenceSpec : readReferenceSpec.Heeds (.spec .reference) := by
  apply heeds_object
  intro fields fields' alike
  rw [alike.optional Labels.projectId (by simp) heeds_string, alike.optional Labels.claimLink (by simp) heeds_link,
    alike.required Labels.legalEntity (by simp) heeds_legalEntity]

theorem heeds_condition : readCondition.Heeds .condition := by
  apply heeds_object
  intro fields fields' alike
  rw [alike.required Labels.type (by simp) heeds_string, alike.required Labels.status (by simp) heeds_string,
    alike.optional Labels.reason (by simp) heeds_string, alike.optional Labels.message (by simp) heeds_string,
    alike.optional Labels.transitionTime (by simp) heeds_timestamp.nullable,
    alike.optional Labels.probeTime (by simp) heeds_timestamp.nullable]

theorem heeds_claimStatus : readClaimStatus.Heeds (.status .claim) := by
  apply heeds_object
  intro fields fields' alike
  rw [alike.optional Labels.state (by simp) heeds_string,
    alike.optional Labels.conditions (by simp) heeds_condition.list.nullable]

theorem heeds_referenceStatus : readReferenceStatus.Heeds (.status .reference) := by
  apply heeds_object
  intro fields fields' alike
  rw [alike.optional Labels.state (by simp) heeds_string]

theorem heeds_spec (kind : Kind) : (readSpec kind).Heeds (.spec kind) := by
  cases kind with
  | claim => exact heeds_claimSpec
  | reference => exact heeds_referenceSpec

theorem heeds_status (kind : Kind) : (readStatus kind).Heeds (.status kind) := by
  cases kind with
  | claim => exact heeds_claimStatus
  | reference => exact heeds_referenceStatus

theorem heeds_document (kind : Kind) : (readDocument kind).Heeds (.document kind) := by
  apply heeds_object
  intro fields fields' alike
  rw [alike.optional Labels.apiVersion (by simp) heeds_string,
    alike.optional Labels.kind (by simp) (heeds_literal kind.text),
    alike.required Labels.metadata (by simp) heeds_metadata,
    alike.required Labels.spec (by simp) (heeds_spec kind),
    alike.optional Labels.status (by simp) (heeds_status kind)]

/-- No unknown field, at any depth of a document, has an influence on the object that is read or on the error. -/
theorem decode_eq_of_alike (kind : Kind) (payload payload' : Json)
    (alike : Alike (.document kind) payload payload') : decode kind payload = decode kind payload' := by
  unfold decode
  rw [heeds_document kind payload payload' alike]

section Annotated

open scoped Labels

attribute [local simp] Label.spellings Json.Fields.get? Alike.same

/-- A claim's document with one condition, and with the notes among the fields of every object in it. -/
def annotatedClaim (notes : Json.Fields) : Json :=
  .object
    ([("kind", .string "ProjectClaim"), ("metadata", .object ([("name", .string "my-claim")] ++ notes)),
      ("spec", .object ([("legal_entity", .object ([("id", .string "entity-1")] ++ notes))] ++ notes)),
      ("status", .object
        ([("conditions", .array [.object ([("type", .string "Ready"), ("status", .string "Maybe")] ++ notes)])] ++
          notes))] ++
      notes)

theorem decode_annotatedClaim :
    decode .claim (annotatedClaim []) = decode .claim (annotatedClaim [("labels", .null)]) := by
  have metadata : Alike .metadata (.object [("name", .string "my-claim")])
      (.object [("name", .string "my-claim"), ("labels", .null)]) := by
    apply Alike.record <;> simp
  have entity : Alike .legalEntity (.object [("id", .string "entity-1")])
      (.object [("id", .string "entity-1"), ("labels", .null)]) := by
    apply Alike.record <;> simp
  have spec : Alike (.spec .claim) (.object [("legal_entity", .object [("id", .string "entity-1")])])
      (.object [("legal_entity", .object [("id", .string "entity-1"), ("labels", .null)]), ("labels", .null)]) := by
    apply Alike.record <;> simp [entity]
  have condition : Alike .condition (.object [("type", .string "Ready"), ("status", .string "Maybe")])
      (.object [("type", .string "Ready"), ("status", .string "Maybe"), ("labels", .null)]) := by
    apply Alike.record <;> simp
  have conditions := Alike.cons condition (.same (.array []))
  have status : Alike (.status .claim)
      (.object [("conditions", .array [.object [("type", .string "Ready"), ("status", .string "Maybe")]])])
      (.object
        [("conditions", .array [.object [("type", .string "Ready"), ("status", .string "Maybe"), ("labels", .null)]]),
          ("labels", .null)]) := by
    apply Alike.record <;> simp [conditions]
  apply decode_eq_of_alike
  apply Alike.record <;> simp [metadata, spec, status]

end Annotated

end ClaimOperator.Manifest

import ClaimOperator.Number.Binary64

/-! JSON values.

An object is a list of fields in the order in which they were written. A key
occurs once in every object that is read or built here; `get?` looks at the
first occurrence, and `put` changes that one or appends.
-/

set_option autoImplicit false

namespace ClaimOperator

inductive Json where
  | null
  | bool (value : Bool)
  | integer (value : Int)
  | real (value : Number.Binary64)
  | string (value : String)
  | array (items : List Json)
  | object (fields : List (String × Json))
  deriving Inhabited, Repr

namespace Json

abbrev Fields := List (String × Json)

def Fields.get? (fields : Fields) (key : String) : Option Json :=
  match fields with
  | [] => none
  | (name, value) :: rest => if name = key then some value else Fields.get? rest key

def Fields.put (fields : Fields) (key : String) (value : Json) : Fields :=
  match fields with
  | [] => [(key, value)]
  | (name, current) :: rest =>
    if name = key then (name, value) :: rest else (name, current) :: Fields.put rest key value

theorem Fields.get?_put_self (fields : Fields) (key : String) (value : Json) :
    (fields.put key value).get? key = some value := by
  induction fields with
  | nil => simp [put, get?]
  | cons field rest ih =>
    obtain ⟨name, current⟩ := field
    by_cases same : name = key
    · simp [put, get?, same]
    · simp [put, get?, same, ih]

theorem Fields.get?_put_of_ne (fields : Fields) {key other : String} (value : Json)
    (different : other ≠ key) : (fields.put key value).get? other = fields.get? other := by
  induction fields with
  | nil => simp [put, get?, Ne.symm different]
  | cons field rest ih =>
    obtain ⟨name, current⟩ := field
    by_cases same : name = key
    · subst same; simp [put, get?, Ne.symm different]
    · by_cases found : name = other
      · simp [put, get?, found, different]
      · simp [put, get?, same, found, ih]

def field? (value : Json) (key : String) : Option Json :=
  match value with
  | .object fields => Fields.get? fields key
  | _ => none

mutual

def beq : Json → Json → Bool
  | .null, .null => true
  | .bool a, .bool b => a == b
  | .integer a, .integer b => a == b
  | .real a, .real b => a == b
  | .string a, .string b => a == b
  | .array a, .array b => beqItems a b
  | .object a, .object b => beqFields a b
  | _, _ => false

def beqItems : List Json → List Json → Bool
  | [], [] => true
  | a :: as, b :: bs => beq a b && beqItems as bs
  | _, _ => false

def beqFields : List (String × Json) → List (String × Json) → Bool
  | [], [] => true
  | (ka, a) :: as, (kb, b) :: bs => ka == kb && beq a b && beqFields as bs
  | _, _ => false

end

mutual

theorem beq_iff_eq : (a b : Json) → (beq a b = true ↔ a = b)
  | .null, b => by cases b <;> simp [beq]
  | .bool _, b => by cases b <;> simp [beq]
  | .integer _, b => by cases b <;> simp [beq]
  | .real _, b => by cases b <;> simp [beq]
  | .string _, b => by cases b <;> simp [beq]
  | .array a, b => by cases b <;> simp [beq, beqItems_iff_eq a]
  | .object a, b => by cases b <;> simp [beq, beqFields_iff_eq a]

theorem beqItems_iff_eq : (a b : List Json) → (beqItems a b = true ↔ a = b)
  | [], b => by cases b <;> simp [beqItems]
  | a :: as, b => by cases b <;> simp [beqItems, beq_iff_eq a, beqItems_iff_eq as]

theorem beqFields_iff_eq : (a b : List (String × Json)) → (beqFields a b = true ↔ a = b)
  | [], b => by cases b <;> simp [beqFields]
  | (_, a) :: as, b => by
    cases b with
    | nil => simp [beqFields]
    | cons field bs =>
      obtain ⟨kb, b⟩ := field
      simp [beqFields, beq_iff_eq a, beqFields_iff_eq as, and_assoc]

end

instance : DecidableEq Json := fun a b => decidable_of_iff _ (beq_iff_eq a b)

end Json

end ClaimOperator

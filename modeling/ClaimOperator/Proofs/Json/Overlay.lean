import ClaimOperator.Json.Overlay

/-! What an overlay leaves in place.

A value is looked up along a path of keys; nothing inside a list has one. One document is laid over
another field by field, so whatever only the lower one has stays, as long as no object of the lower
one comes to lie under a value that is none.
-/

set_option autoImplicit false

namespace ClaimOperator.Json

namespace Fields

theorem get?_cons_self (key : String) (value : Json) (rest : Fields) :
    get? ((key, value) :: rest) key = some value := by simp [get?]

theorem get?_cons_of_ne {name key : String} (value : Json) (rest : Fields) (different : name ≠ key) :
    get? ((name, value) :: rest) key = get? rest key := by simp [get?, different]

theorem get?_eq_none {fields : Fields} {key : String} (absent : key ∉ fields.map Prod.fst) :
    get? fields key = none := by
  induction fields with
  | nil => rfl
  | cons field rest ih =>
    obtain ⟨name, value⟩ := field
    simp only [List.map_cons, List.mem_cons, not_or] at absent
    rw [get?_cons_of_ne value rest (Ne.symm absent.1), ih absent.2]

theorem mem_of_get? {fields : Fields} {key : String} {value : Json} (found : get? fields key = some value) :
    (key, value) ∈ fields := by
  induction fields with
  | nil => cases found
  | cons field rest ih =>
    obtain ⟨name, current⟩ := field
    by_cases same : name = key
    · subst same
      rw [get?_cons_self] at found
      cases found
      exact List.mem_cons_self
    · rw [get?_cons_of_ne current rest same] at found
      exact List.mem_cons_of_mem _ (ih found)

theorem put_of_not_mem {fields : Fields} {key : String} (value : Json) (absent : key ∉ fields.map Prod.fst) :
    put fields key value = fields ++ [(key, value)] := by
  induction fields with
  | nil => rfl
  | cons field rest ih =>
    obtain ⟨name, current⟩ := field
    simp only [List.map_cons, List.mem_cons, not_or] at absent
    simp only [put, if_neg (Ne.symm absent.1), ih absent.2, List.cons_append]

theorem put_put_self (fields : Fields) (key : String) (first second : Json) :
    put (put fields key first) key second = put fields key second := by
  induction fields with
  | nil => simp [put]
  | cons field rest ih =>
    obtain ⟨name, current⟩ := field
    by_cases same : name = key <;> simp [put, same, ih]

/-- A key that is there keeps its place, so it does not matter when it gets its value. -/
theorem put_comm_of_get? {fields : Fields} {key other : String} {current : Json} (value upper : Json)
    (there : get? fields key = some current) (different : other ≠ key) :
    put (put fields other upper) key value = put (put fields key value) other upper := by
  induction fields with
  | nil => cases there
  | cons field rest ih =>
    obtain ⟨name, held⟩ := field
    by_cases found : name = key
    · subst found
      simp [put, Ne.symm different]
    · rw [get?_cons_of_ne held rest found] at there
      by_cases same : name = other <;> simp [put, same, found, different, ih there]

end Fields

section Lookup

def at? (value : Json) : List String → Option Json
  | [] => some value
  | key :: rest => (value.field? key).bind (·.at? rest)

@[simp] theorem at?_nil (value : Json) : value.at? [] = some value := rfl

@[simp] theorem at?_object_cons (fields : Fields) (key : String) (rest : List String) :
    (object fields).at? (key :: rest) = (Fields.get? fields key).bind (·.at? rest) := rfl

def IsObject (value : Json) : Prop := ∃ fields, value = object fields

theorem at?_cons_of_not_object {value : Json} (bare : ¬ value.IsObject) (key : String) (rest : List String) :
    value.at? (key :: rest) = none := by
  cases value with
  | object fields => exact absurd ⟨fields, rfl⟩ bare
  | _ => rfl

end Lookup

section Laying

variable {base upper : Json}

@[simp] theorem overlay_object (below fields : Fields) :
    overlay (object below) (object fields) = object (overlayFields below fields) := by simp [overlay]

theorem overlay_of_not_object (bare : ¬ base.IsObject) : overlay base upper = upper := by
  cases base with
  | object fields => exact absurd ⟨fields, rfl⟩ bare
  | _ => simp [overlay]

theorem overlay_of_flat (flat : ¬ upper.IsObject) (base : Json) : overlay base upper = upper := by
  cases upper with
  | object fields => exact absurd ⟨fields, rfl⟩ flat
  | _ => cases base <;> simp [overlay]

@[simp] theorem overlay_string (base : Json) (text : String) : overlay base (string text) = string text :=
  overlay_of_flat (fun ⟨_, same⟩ => nomatch same) base

@[simp] theorem overlay_array (base : Json) (items : List Json) : overlay base (array items) = array items :=
  overlay_of_flat (fun ⟨_, same⟩ => nomatch same) base

def overlayOn (below : Option Json) (value : Json) : Json :=
  match below with
  | some current => overlay current value
  | none => value

@[simp] theorem overlayOn_string (below : Option Json) (text : String) :
    overlayOn below (string text) = string text := by
  cases below <;> simp [overlayOn]

@[simp] theorem overlayOn_array (below : Option Json) (items : List Json) :
    overlayOn below (array items) = array items := by
  cases below <;> simp [overlayOn]

@[simp] theorem overlayFields_nil (below : Fields) : overlayFields below [] = below := by simp [overlayFields]

theorem overlayFields_cons (below : Fields) (key : String) (value : Json) (rest : Fields) :
    overlayFields below ((key, value) :: rest) =
      overlayFields (below.put key (overlayOn (below.get? key) value)) rest := by
  rw [overlayFields]
  cases below.get? key <;> rfl

theorem get?_overlayFields {fields : Fields} (distinct : (fields.map Prod.fst).Nodup) (below : Fields) (key : String) :
    Fields.get? (overlayFields below fields) key =
      match fields.get? key with
      | some value => some (overlayOn (below.get? key) value)
      | none => below.get? key := by
  -- Each field that is laid changes what the next one is laid over.
  induction fields generalizing below with
  | nil => simp [Fields.get?]
  | cons field rest ih =>
    obtain ⟨name, value⟩ := field
    have others : name ∉ rest.map Prod.fst := (List.nodup_cons.1 distinct).1
    rw [overlayFields_cons, ih (List.nodup_cons.1 distinct).2]
    by_cases same : name = key
    · subst same
      rw [Fields.get?_eq_none others, Fields.get?_cons_self]
      exact Fields.get?_put_self ..
    · rw [Fields.get?_cons_of_ne value rest same, Fields.get?_put_of_ne below _ (Ne.symm same)]

theorem overlayFields_append (below first second : Fields) :
    overlayFields below (first ++ second) = overlayFields (overlayFields below first) second := by
  induction first generalizing below with
  | nil => rw [List.nil_append, overlayFields_nil]
  | cons field rest ih => rw [List.cons_append, overlayFields_cons, overlayFields_cons, ih]

theorem overlayFields_of_apart {below fields : Fields} (apart : ((below ++ fields).map Prod.fst).Nodup) :
    overlayFields below fields = below ++ fields := by
  induction fields generalizing below with
  | nil => simp
  | cons field rest ih =>
    obtain ⟨name, value⟩ := field
    have fresh : name ∉ below.map Prod.fst := by
      intro there
      simp only [List.map_append, List.map_cons, List.nodup_append] at apart
      exact apart.2.2 name there name List.mem_cons_self rfl
    have longer : (below ++ [(name, value)]) ++ rest = below ++ (name, value) :: rest := by simp
    rw [overlayFields_cons, Fields.get?_eq_none fresh, Fields.put_of_not_mem _ fresh, overlayOn]
    rw [ih (longer ▸ apart), longer]

def fieldsOf : Option Json → Fields
  | some (object fields) => fields
  | _ => []

theorem overlayOn_object {fields : Fields} (distinct : (fields.map Prod.fst).Nodup) (below : Option Json) :
    overlayOn below (object fields) = object (overlayFields (fieldsOf below) fields) := by
  have alone : overlayFields [] fields = fields := overlayFields_of_apart distinct
  cases below with
  | none => simp [overlayOn, fieldsOf, alone]
  | some current => cases current <;> simp [overlayOn, fieldsOf, overlay, alone]

/-- One document can be laid over another without burying an object of it. -/
inductive Fits : Json → Json → Prop where
  -- A value without fields is replaced as a whole, and nothing inside it is lost.
  | bare {base upper : Json} : ¬ base.IsObject → Fits base upper
  | fields {below fields : Fields} : (fields.map Prod.fst).Nodup →
      (∀ field ∈ fields, ∀ current, below.get? field.1 = some current → Fits current field.2) →
      Fits (object below) (object fields)

/-- Where the upper document has no object it has its way, and leaves alone what it says nothing about. -/
theorem at?_overlay (fits : Fits base upper) {path : List String}
    (flat : ∀ value, upper.at? path = some value → ¬ value.IsObject) :
    (overlay base upper).at? path = (upper.at? path).or (base.at? path) := by
  induction fits generalizing path with
  | @bare base upper bare =>
    rw [overlay_of_not_object bare]
    cases path with
    | nil => rfl
    | cons key rest => rw [at?_cons_of_not_object bare, Option.or_none]
  | @fields below fields distinct parts ih =>
    cases path with
    | nil => exact absurd ⟨fields, rfl⟩ (flat _ rfl)
    | cons key rest =>
      simp only [overlay_object, at?_object_cons] at flat ⊢
      rw [get?_overlayFields distinct]
      cases found : fields.get? key with
      | none => rfl
      | some value =>
        rw [found, Option.bind_some] at flat
        cases under : below.get? key with
        | none => exact (Option.or_none).symm
        | some current => exact ih (key, value) (Fields.mem_of_get? found) current under flat

end Laying

end ClaimOperator.Json

import ClaimOperator.Proofs.Json.Overlay

/-! The laws of laying one document over another.

What a laid document has along a path is told from the two documents alone: the upper one has its way where
it has a value that is no object, the lower one where the upper one says nothing, and objects of both are laid
over each other in turn. To lay a document twice is to lay it once.
-/

set_option autoImplicit false

namespace ClaimOperator.Json

namespace Fields

theorem put_of_get? {fields : Fields} {key : String} {value : Json} (there : get? fields key = some value) :
    put fields key value = fields := by
  induction fields with
  | nil => cases there
  | cons field rest ih =>
    obtain ⟨name, current⟩ := field
    by_cases same : name = key
    · subst same
      rw [get?_cons_self] at there
      cases there
      simp [put]
    · rw [get?_cons_of_ne current rest same] at there
      simp [put, same, ih there]

end Fields

/-- No object that is reached through objects has a key twice. -/
inductive Distinct : Json → Prop where
  | flat {value : Json} : ¬ value.IsObject → Distinct value
  | fields {fields : Fields} : (fields.map Prod.fst).Nodup → (∀ field ∈ fields, Distinct field.2) →
      Distinct (object fields)

section Paths

variable {base upper : Json} {path : List String} {value : Json}

theorem at?_cons (value : Json) (key : String) (rest : List String) :
    value.at? (key :: rest) = (value.field? key).bind (·.at? rest) := rfl

theorem field?_overlay {fields : Fields} (distinct : (fields.map Prod.fst).Nodup) (base : Json) (key : String) :
    (overlay base (object fields)).field? key =
      match fields.get? key with
      | some child => some (overlayOn (base.field? key) child)
      | none => base.field? key := by
  cases base with
  | object below =>
    rw [overlay_object]
    exact get?_overlayFields distinct below key
  | _ =>
    rw [overlay_of_not_object (by rintro ⟨_, ⟨⟩⟩)]
    cases here : fields.get? key <;> simpa [field?, overlayOn] using here

theorem at?_overlay_of_some (distinct : upper.Distinct) (found : upper.at? path = some value) :
    (overlay base upper).at? path = some (overlayOn (base.at? path) value) := by
  induction path generalizing base upper with
  | nil =>
    cases found
    rfl
  | cons key rest ih =>
    cases distinct with
    | flat flat => rw [at?_cons_of_not_object flat] at found; cases found
    | @fields fields distinct parts =>
      obtain ⟨child, here, deeper⟩ := Option.bind_eq_some_iff.mp found
      have here : fields.get? key = some child := here
      rw [at?_cons, at?_cons, field?_overlay distinct, here, Option.bind_some]
      cases base.field? key with
      | none => exact deeper
      | some current => exact ih (parts (key, child) (Fields.mem_of_get? here)) deeper

theorem at?_overlay_of_none (distinct : upper.Distinct) (silent : upper.at? path = none)
    (clear : ∀ front, front <+: path → front ≠ path → ∀ value, upper.at? front = some value → value.IsObject) :
    (overlay base upper).at? path = base.at? path := by
  induction path generalizing base upper with
  | nil => cases silent
  | cons key rest ih =>
    cases distinct with
    | flat flat => exact absurd (clear [] List.nil_prefix (List.cons_ne_nil key rest).symm upper rfl) flat
    | @fields fields distinct parts =>
      rw [at?_cons, at?_cons, field?_overlay distinct]
      cases here : fields.get? key with
      | none => rfl
      | some child =>
        have deeper : ∀ front, (object fields).at? (key :: front) = child.at? front := by
          intro front
          rw [at?_object_cons, here, Option.bind_some]
        rw [deeper] at silent
        cases base.field? key with
        | none => exact silent
        | some current =>
          refine ih (parts (key, child) (Fields.mem_of_get? here)) silent fun front short proper value there => ?_
          refine clear (key :: front) (List.cons_prefix_cons.mpr ⟨rfl, short⟩) ?_ value ((deeper front).trans there)
          exact fun same => proper (List.cons.inj same).2

end Paths

section Repetition

theorem overlayFields_twice {fields : Fields} (distinct : (fields.map Prod.fst).Nodup)
    (parts : ∀ field ∈ fields, ∀ base, overlay (overlay base field.2) field.2 = overlay base field.2)
    (below : Fields) : overlayFields (overlayFields below fields) fields = overlayFields below fields := by
  induction fields generalizing below with
  | nil => simp
  | cons field rest ih =>
    obtain ⟨key, value⟩ := field
    have others : key ∉ rest.map Prod.fst := (List.nodup_cons.mp distinct).1
    have later := ih (List.nodup_cons.mp distinct).2 fun field member => parts field (List.mem_cons_of_mem _ member)
    let laid := overlayOn (below.get? key) value
    -- The first field is in the outcome as it was laid, since the others have other keys.
    have there : Fields.get? (overlayFields (below.put key laid) rest) key = some laid := by
      rw [get?_overlayFields (List.nodup_cons.mp distinct).2, Fields.get?_eq_none others]
      exact Fields.get?_put_self below key laid
    have again : overlay laid value = laid := by
      have law := parts (key, value) List.mem_cons_self
      unfold laid
      cases below.get? key with
      | some current => exact law current
      | none => simpa [overlayOn, overlay] using law null
    rw [overlayFields_cons below, overlayFields_cons, there, overlayOn, again, Fields.put_of_get? there]
    exact later _

theorem overlayFields_empty {fields : Fields} (distinct : (fields.map Prod.fst).Nodup) :
    overlayFields [] fields = fields := overlayFields_of_apart distinct

theorem overlay_twice {upper : Json} (distinct : upper.Distinct) (base : Json) :
    overlay (overlay base upper) upper = overlay base upper := by
  induction distinct generalizing base with
  | flat flat => simp only [overlay_of_flat flat]
  | @fields fields distinct parts ih =>
    have again := overlayFields_twice distinct ih
    by_cases whole : base.IsObject
    · obtain ⟨below, rfl⟩ := whole
      simp only [overlay_object, again]
    · have twice := again []
      rw [overlayFields_empty distinct] at twice
      rw [overlay_of_not_object whole, overlay_object, twice]

end Repetition

/-- What a document has along every path of keys, one document being laid over the other. -/
structure LaidOver (base upper laid : Json) : Prop where
  above : ∀ path value, upper.at? path = some value → ¬ value.IsObject → laid.at? path = some value
  below : ∀ path, upper.at? path = none →
    (∀ front, front <+: path → front ≠ path → ∀ value, upper.at? front = some value → value.IsObject) →
    laid.at? path = base.at? path
  objects : ∀ path value, upper.at? path = some value → value.IsObject →
    ∃ merged, laid.at? path = some merged ∧ merged.IsObject
  -- Nothing is left of a value that is no object, and there is nothing to merge with where there is no value.
  replaced : ∀ path value, upper.at? path = some value → value.IsObject →
    (∀ current, base.at? path = some current → ¬ current.IsObject) → laid.at? path = some value

theorem isObject_overlayOn {value : Json} (below : Option Json) (whole : value.IsObject) :
    (overlayOn below value).IsObject := by
  obtain ⟨fields, rfl⟩ := whole
  cases below with
  | none => exact ⟨fields, rfl⟩
  | some current =>
    by_cases under : current.IsObject
    · obtain ⟨lower, rfl⟩ := under
      exact ⟨overlayFields lower fields, overlay_object lower fields⟩
    · exact ⟨fields, overlay_of_not_object under⟩

theorem overlayOn_of_bare {below : Option Json} (bare : ∀ current, below = some current → ¬ current.IsObject)
    (value : Json) : overlayOn below value = value := by
  cases below with
  | none => rfl
  | some current => exact overlay_of_not_object (bare current rfl)

theorem overlayOn_of_flat {value : Json} (flat : ¬ value.IsObject) (below : Option Json) :
    overlayOn below value = value := by
  cases below with
  | none => rfl
  | some current => exact overlay_of_flat flat current

theorem laidOver_overlay {upper : Json} (distinct : upper.Distinct) (base : Json) :
    LaidOver base upper (overlay base upper) where
  above path value found flat := by rw [at?_overlay_of_some distinct found, overlayOn_of_flat flat]
  below path silent clear := at?_overlay_of_none distinct silent clear
  objects path value found whole := ⟨_, at?_overlay_of_some distinct found, isObject_overlayOn _ whole⟩
  replaced path value found _ bare := by rw [at?_overlay_of_some distinct found, overlayOn_of_bare bare]

/-- One object laid over another has along every path what the two say. The empty object adds nothing, above or below,
and an object that was laid over may be laid over again: these documents are the same, even in the order of their
keys. -/
theorem overlay_laws (below fields : Fields) (distinct : (object fields).Distinct) :
    LaidOver (object below) (object fields) (overlay (object below) (object fields)) ∧
    overlay (object below) (object []) = object below ∧
    overlay (object []) (object fields) = object fields ∧
    overlay (overlay (object below) (object fields)) (object fields) = overlay (object below) (object fields) := by
  refine ⟨laidOver_overlay distinct _, ?_, ?_, overlay_twice distinct _⟩
  · rw [overlay_object, overlayFields_nil]
  · cases distinct with
    | flat flat => exact absurd ⟨fields, rfl⟩ flat
    | fields distinct parts => rw [overlay_object, overlayFields_empty distinct]

def settled : Fields :=
  [("spec", object [("region", string "us-east1"), ("link", object [("name", string "old")])]),
    ("state", string "Ready"), ("labels", object [("team", string "platform")]), ("items", array [null])]

def revising : Fields :=
  [("spec", object [("link", object [("space", string "new")])]), ("state", object [("phase", string "Ready")]),
    ("labels", array []), ("added", null)]

def revised : Fields :=
  [("spec", object [("region", string "us-east1"), ("link", object [("name", string "old"), ("space", string "new")])]),
    ("state", object [("phase", string "Ready")]), ("labels", array []), ("items", array [null]), ("added", null)]

theorem settled_revised :
    (object revising).Distinct ∧ LaidOver (object settled) (object revising) (object revised) ∧
      overlay (object revised) (object revising) = object revised := by
  have text (value : String) : (string value).Distinct := .flat (by rintro ⟨_, ⟨⟩⟩)
  have list (items : List Json) : (array items).Distinct := .flat (by rintro ⟨_, ⟨⟩⟩)
  have nothing : null.Distinct := .flat (by rintro ⟨_, ⟨⟩⟩)
  have one {key : String} {value : Json} (part : value.Distinct) : (object [(key, value)]).Distinct :=
    .fields (by simp) (by simpa using part)
  have distinct : (object revising).Distinct := by
    refine .fields (by decide) ?_
    simpa [revising] using ⟨one (one (text "new")), one (text "Ready"), list [], nothing⟩
  have merged : overlay (object settled) (object revising) = object revised := by rfl
  obtain ⟨laid, -, -, again⟩ := overlay_laws settled revising distinct
  rw [merged] at laid again
  exact ⟨distinct, laid, again⟩

end ClaimOperator.Json

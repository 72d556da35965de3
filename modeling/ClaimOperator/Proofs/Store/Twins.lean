import ClaimOperator.Proofs.Store.Contents

/-! Contents that differ in their versions only.

The shared rules look at a version in one place: a write that carries one must carry the
stored one. So two stores that hold the same objects under versions of their own do the same
with a request, as long as the version that it carries is the stored one in both or in neither.
-/

set_option autoImplicit false

namespace ClaimOperator

def Object.Twin {kind : Kind} (object twin : Object kind) : Prop := ∃ version, twin = object.withVersion version

/-- Both requests succeed, or both are refused by errors of one class, and answers compare by `related`. -/
inductive EndAlike {α β : Type} (related : α → β → Prop) : Except Failure α → Except Failure β → Prop
  | answered {answer : α} {answer' : β} : related answer answer' → EndAlike related (.ok answer) (.ok answer')
  | refused {error error' : StoreError} : error.category = error'.category →
      EndAlike related (.error (.store error)) (.error (.store error'))

namespace StoreRequest

def withVersion (version : Option String) : StoreRequest → StoreRequest
  | get kind key => get kind key
  | create object => create (object.withVersion version)
  | update object => update (object.withVersion version)
  | updateStatus object => updateStatus (object.withVersion version)
  | delete object => delete (object.withVersion version)

@[simp] theorem kind_withVersion (request : StoreRequest) (version : Option String) :
    (request.withVersion version).kind = request.kind := by cases request <;> rfl

@[simp] theorem key_withVersion (request : StoreRequest) (version : Option String) :
    (request.withVersion version).key = request.key := by cases request <;> rfl

def isConditional : StoreRequest → Bool
  | update _ | updateStatus _ => true
  | _ => false

/-- Two stores read the same object, and a write stores an object in both or takes it out of both. -/
def AnswersAlike : (request : StoreRequest) → (version version' : Option String) →
    (request.withVersion version).Answer → (request.withVersion version').Answer → Prop
  | get _ _, _, _, object, object' => object.Twin object'
  | create _, _, _, version, version' | update _, _, _, version, version'
  | updateStatus _, _, _, version, version' => version.isSome = version'.isSome
  | delete _, _, _, _, _ => True

end StoreRequest

namespace Entry

variable {kind : Kind} {fresh fresh' : String} {entry entry' : Entry kind} {object : Object kind}
  {version version' : Option String} {now : Timestamp}

inductive Twin : Entry kind → Entry kind → Prop
  | absent : Twin none none
  | present (object : Object kind) (version : Option String) : Twin (some object) (some (object.withVersion version))

theorem Twin.withVersion (object : Object kind) (version version' : Option String) :
    Twin (some (object.withVersion version)) (some (object.withVersion version')) :=
  .present (object.withVersion version) version'

theorem Twin.ne_none (twin : Twin entry entry') (present : entry ≠ none) : entry' ≠ none := by
  cases twin with
  | absent => exact present
  | present object version => simp

inductive Moves (fresh fresh' : String) (entry entry' : Entry kind) : Entry kind → Entry kind → Prop
  | stays : Moves fresh fresh' entry entry' entry entry'
  | leaves : Moves fresh fresh' entry entry' none none
  | comes (object : Object kind) : Moves fresh fresh' entry entry' (some (object.withVersion (some fresh)))
      (some (object.withVersion (some fresh')))

inductive Alike {α β : Type} (related : α → β → Prop) (fresh fresh' : String) (entry entry' : Entry kind) :
    Except StoreError (α × Entry kind) → Except StoreError (β × Entry kind) → Prop
  | refused {error error' : StoreError} : error.category = error'.category →
      Alike related fresh fresh' entry entry' (.error error) (.error error')
  | done {answer : α} {answer' : β} {after after' : Entry kind} : related answer answer' →
      Moves fresh fresh' entry entry' after after' →
      Alike related fresh fresh' entry entry' (.ok (answer, after)) (.ok (answer', after'))

/-- The version that a write carries is the stored one in both stores, or in neither. -/
def Matched (version version' : Option String) (entry entry' : Entry kind) : Prop :=
  ∀ stored stored', entry = some stored → entry' = some stored' →
    (version = none ∨ version = stored.metadata.version ↔ version' = none ∨ version' = stored'.metadata.version)

theorem get_alike (key : ObjectKey) (twin : Twin entry entry') :
    Alike Object.Twin fresh fresh' entry entry' (get key entry) (get key entry') := by
  cases twin with
  | absent => exact .refused rfl
  | present object version => exact .done ⟨version, rfl⟩ .stays

theorem create_alike (object : Object kind) (version version' : Option String) (twin : Twin entry entry') :
    Alike (fun answer answer' : Option String => answer.isSome = answer'.isSome) fresh fresh' entry entry'
      (create (object.withVersion version) fresh entry) (create (object.withVersion version') fresh' entry') := by
  cases twin with
  | absent => exact .done rfl (.comes (WriteRules.newborn object))
  | present stored version => exact .refused rfl

theorem overwrite_alike {α β : Type} {related : α → β → Prop} (object : Object kind) (twin : Twin entry entry')
    (matched : Matched version version' entry entry') {rule : Object kind → α × Entry kind}
    {rule' : Object kind → β × Entry kind}
    (alike : ∀ stored carried, Alike related fresh fresh' entry entry' (.ok (rule stored))
      (.ok (rule' (stored.withVersion carried)))) :
    Alike related fresh fresh' entry entry' (overwrite (object.withVersion version) entry rule)
      (overwrite (object.withVersion version') entry' rule') := by
  cases twin with
  | absent => exact .refused rfl
  | present stored carried =>
    have both : WriteRules.matchVersion stored (object.withVersion version) = .ok () ↔
        WriteRules.matchVersion (stored.withVersion carried) (object.withVersion version') = .ok () := by
      rw [WriteRules.matchVersion_eq_ok_iff, WriteRules.matchVersion_eq_ok_iff]
      exact matched stored _ rfl rfl
    cases first : WriteRules.matchVersion stored (object.withVersion version) with
    | ok _ =>
      simp only [overwrite, first, both.mp first, Except.map]
      exact alike stored carried
    | error mismatch =>
      cases second : WriteRules.matchVersion (stored.withVersion carried) (object.withVersion version') with
      | ok _ => cases first.symm.trans (both.mpr second)
      | error mismatch' =>
        simp only [overwrite, first, second, Except.map]
        exact .refused ((WriteRules.category_of_mismatch first).trans (WriteRules.category_of_mismatch second).symm)

theorem update_alike (object : Object kind) (twin : Twin entry entry')
    (matched : Matched version version' entry entry') :
    Alike (fun answer answer' : Option String => answer.isSome = answer'.isSome) fresh fresh' entry entry'
      (update (object.withVersion version) fresh entry) (update (object.withVersion version') fresh' entry') := by
  refine overwrite_alike object twin matched fun stored carried => ?_
  have released : WriteRules.isReleased (WriteRules.revise stored (object.withVersion version)) =
      WriteRules.isReleased (WriteRules.revise (stored.withVersion carried) (object.withVersion version')) := rfl
  rw [← released]
  split
  · exact .done rfl .leaves
  · exact .done rfl (.comes (WriteRules.revise stored object))

theorem updateStatus_alike (object : Object kind) (twin : Twin entry entry')
    (matched : Matched version version' entry entry') :
    Alike (fun answer answer' : Option String => answer.isSome = answer'.isSome) fresh fresh' entry entry'
      (updateStatus (object.withVersion version) fresh entry)
      (updateStatus (object.withVersion version') fresh' entry') :=
  overwrite_alike object twin matched fun stored _ => .done rfl (.comes (WriteRules.reviseStatus stored object))

theorem delete_alike (object : Object kind) (version version' : Option String) (now : Timestamp)
    (twin : Twin entry entry') :
    Alike (fun _ _ : Unit => True) fresh fresh' entry entry' (delete (object.withVersion version) now fresh entry)
      (delete (object.withVersion version') now fresh' entry') := by
  cases twin with
  | absent => exact .refused rfl
  | present stored carried =>
    have awaiting : WriteRules.isAwaitingRelease stored =
        WriteRules.isAwaitingRelease (stored.withVersion carried) := rfl
    have marked : WriteRules.mark? (stored.withVersion carried) now =
        (WriteRules.mark? stored now).map (·.withVersion carried) := by
      unfold WriteRules.mark?
      split
      · next held => rw [if_pos (show WriteRules.isHeld stored = true from held)]; rfl
      · next free => rw [if_neg (show ¬ WriteRules.isHeld stored = true from free)]; rfl
    simp only [delete, ← awaiting, marked]
    split
    · exact .done trivial .stays
    · cases WriteRules.mark? stored now with
      | none => exact .done trivial .leaves
      | some written => exact .done trivial (.comes written)

end Entry

namespace Contents

variable {first second : Contents} {fresh fresh' : String} {version version' : Option String} {now : Timestamp}

def Twins (first second : Contents) : Prop := ∀ kind key, Entry.Twin (first kind key) (second kind key)

def Move (fresh fresh' : String) (first second : Contents) (kind : Kind) (key : ObjectKey)
    (after after' : Contents) : Prop :=
  ∃ entry entry' : Entry kind, Entry.Moves fresh fresh' (first kind key) (second kind key) entry entry' ∧
    after = first.set kind key entry ∧ after' = second.set kind key entry'

theorem Move.moves (fresh fresh' : Kind → ObjectKey → String) {kind : Kind} {key : ObjectKey} {after after' : Contents}
    (move : Move (fresh kind key) (fresh' kind key) first second kind key after after') (other : Kind)
    (otherKey : ObjectKey) : Entry.Moves (fresh other otherKey) (fresh' other otherKey) (first other otherKey)
      (second other otherKey) (after other otherKey) (after' other otherKey) := by
  obtain ⟨entry, entry', moves, rfl, rfl⟩ := move
  by_cases here : kind = other ∧ key = otherKey
  · obtain ⟨rfl, rfl⟩ := here
    rwa [set_self, set_self]
  · simp only [set, here, ↓reduceDIte]
    exact .stays

theorem settle_alike {α β : Type} {related : α → β → Prop} {kind : Kind} {key : ObjectKey}
    {outcome : Except StoreError (α × Entry kind)} {outcome' : Except StoreError (β × Entry kind)}
    (alike : Entry.Alike related fresh fresh' (first kind key) (second kind key) outcome outcome') :
    EndAlike related (first.settle key outcome).1 (second.settle key outcome').1 ∧
      Move fresh fresh' first second kind key (first.settle key outcome).2 (second.settle key outcome').2 := by
  cases alike with
  | refused same =>
    exact ⟨.refused same, _, _, .stays, (set_current first kind key).symm, (set_current second kind key).symm⟩
  | done answers moves => exact ⟨.answered answers, _, _, moves, rfl, rfl⟩

/-- Two stores that hold the same objects do the same with a request. -/
theorem serve_alike (fresh fresh' : String) (now : Timestamp) (twins : first.Twins second) (request : StoreRequest)
    (matched : request.isConditional = true → Entry.Matched version version' (first request.kind request.key)
      (second request.kind request.key)) :
    EndAlike (request.AnswersAlike version version') (first.serve fresh now (request.withVersion version)).1
        (second.serve fresh' now (request.withVersion version')).1 ∧
      Move fresh fresh' first second request.kind request.key
        (first.serve fresh now (request.withVersion version)).2
        (second.serve fresh' now (request.withVersion version')).2 := by
  cases request with
  | get kind key => exact settle_alike (Entry.get_alike key (twins kind key))
  | @create kind object => exact settle_alike (Entry.create_alike object version version' (twins kind object.key))
  | @update kind object => exact settle_alike (Entry.update_alike object (twins kind object.key) (matched rfl))
  | @updateStatus kind object =>
    exact settle_alike (Entry.updateStatus_alike object (twins kind object.key) (matched rfl))
  | @delete kind object => exact settle_alike (Entry.delete_alike object version version' now (twins kind object.key))

end Contents

end ClaimOperator

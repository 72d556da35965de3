import ClaimOperator.Store.Service
import ClaimOperator.Store.WriteRules

/-! What a store holds, apart from how it keeps it.

The contents of a store give an object, or none, for every kind and key. A request
reads and writes one entry, by the rules that the local stores share; the only thing
that a store adds is the version under which an object is written.
-/

set_option autoImplicit false

namespace ClaimOperator

namespace WriteRules

variable {kind : Kind} {stored marked : Object kind} {now : Timestamp}

theorem category_of_mismatch {incoming : Object kind} {error : StoreError}
    (mismatch : matchVersion stored incoming = .error error) : error.category = .conflict := by
  unfold matchVersion at mismatch
  split at mismatch
  · cases mismatch
  · split at mismatch
    · cases mismatch
    · cases mismatch
      rfl

theorem eq_of_mark? (held : mark? stored now = some marked) : marked =
    { stored with
      metadata := { stored.metadata with deletionTime := some (stored.metadata.deletionTime.getD now) } } := by
  unfold mark? at held
  split at held
  · exact (Option.some.inj held).symm
  · cases held

theorem isSome_mark? (held : isHeld stored = true) (now : Timestamp) : (mark? stored now).isSome = true := by
  rw [mark?, if_pos held]
  rfl

theorem key_of_mark? (held : mark? stored now = some marked) : marked.key = stored.key := by
  obtain rfl := eq_of_mark? held
  rfl

theorem spec_of_mark? (held : mark? stored now = some marked) : marked.spec = stored.spec := by
  obtain rfl := eq_of_mark? held
  rfl

theorem finalizers_of_mark? (held : mark? stored now = some marked) :
    marked.metadata.finalizers = stored.metadata.finalizers := by
  obtain rfl := eq_of_mark? held
  rfl

theorem not_isReleased_of_mark? (held : mark? stored now = some marked) : isReleased marked = false := by
  unfold mark? at held
  split at held
  · next stays =>
    cases held
    have stays' : isHeld { stored with metadata := { stored.metadata with
        deletionTime := some (stored.metadata.deletionTime.getD now) } } = true := stays
    simp only [isReleased, stays', Bool.not_true, Bool.and_false]
  · cases held

theorem isLeaving_of_mark? (held : mark? stored now = some marked) : marked.isLeaving = true := by
  obtain rfl := eq_of_mark? held
  rfl

end WriteRules

abbrev Contents := (kind : Kind) → ObjectKey → Option (Object kind)

namespace Contents

def empty : Contents := fun _ _ => none

def set (contents : Contents) (kind : Kind) (key : ObjectKey) (entry : Option (Object kind)) : Contents :=
  fun other otherKey =>
    if same : kind = other ∧ key = otherKey then same.1 ▸ entry else contents other otherKey

@[simp] theorem set_self (contents : Contents) (kind : Kind) (key : ObjectKey) (entry : Option (Object kind)) :
    contents.set kind key entry kind key = entry := by
  simp [set]

theorem set_of_ne (contents : Contents) {kind other : Kind} {key otherKey : ObjectKey}
    (entry : Option (Object kind)) (different : (other, otherKey) ≠ (kind, key)) :
    contents.set kind key entry other otherKey = contents other otherKey :=
  dif_neg fun same => different (Prod.ext same.1.symm same.2.symm)

theorem set_of_key_ne (contents : Contents) (kind : Kind) {key other : ObjectKey}
    (entry : Option (Object kind)) (different : other ≠ key) :
    contents.set kind key entry kind other = contents kind other :=
  set_of_ne contents entry fun same => different (congrArg Prod.snd same)

theorem set_of_kind_ne (contents : Contents) {kind other : Kind} (key otherKey : ObjectKey)
    (entry : Option (Object kind)) (different : other ≠ kind) :
    contents.set kind key entry other otherKey = contents other otherKey :=
  set_of_ne contents entry fun same => different (congrArg Prod.fst same)

@[simp] theorem set_claim_reference (contents : Contents) (key other : ObjectKey) (entry : Option Claim) :
    contents.set .claim key entry .reference other = contents .reference other :=
  set_of_kind_ne contents key other entry (by decide)

@[simp] theorem set_reference_claim (contents : Contents) (key other : ObjectKey) (entry : Option Reference) :
    contents.set .reference key entry .claim other = contents .claim other :=
  set_of_kind_ne contents key other entry (by decide)

theorem set_apply (contents : Contents) (kind : Kind) (key other : ObjectKey) (entry : Option (Object kind)) :
    contents.set kind key entry kind other = if other = key then entry else contents kind other := by
  by_cases same : other = key
  · subst same; simp
  · simp [same, set_of_key_ne]

theorem set_current (contents : Contents) (kind : Kind) (key : ObjectKey) :
    contents.set kind key (contents kind key) = contents := by
  funext other otherKey
  by_cases same : kind = other ∧ key = otherKey
  · obtain ⟨rfl, rfl⟩ := same; simp
  · simp [set, same]

@[simp] theorem set_set (contents : Contents) (kind : Kind) (key : ObjectKey) (first second : Option (Object kind)) :
    (contents.set kind key first).set kind key second = contents.set kind key second := by
  funext other otherKey
  by_cases same : kind = other ∧ key = otherKey
  · obtain ⟨rfl, rfl⟩ := same; simp
  · simp [set, same]

theorem set_reference_set_claim (contents : Contents) (key other : ObjectKey) (claim : Option Claim)
    (reference : Option Reference) : (contents.set .claim key claim).set .reference other reference =
      (contents.set .reference other reference).set .claim key claim := by
  funext kind place
  cases kind <;> simp [set_apply]

def Keyed (contents : Contents) : Prop :=
  ∀ kind key object, contents kind key = some object → object.key = key

end Contents

abbrev Entry (kind : Kind) := Option (Object kind)

/-! Each rule gives the answer and the entry after it, or says why the request is refused. An object
that is written comes under the version `fresh`. -/

namespace Entry

variable {kind : Kind}

def get (key : ObjectKey) (entry : Entry kind) : Except StoreError (Object kind × Entry kind) :=
  match entry with
  | some stored => .ok (stored, some stored)
  | none => .error (.notFound kind key)

def create (object : Object kind) (fresh : String) (entry : Entry kind) :
    Except StoreError (Option String × Entry kind) :=
  match entry with
  | some _ => .error (.alreadyExists kind object.key)
  | none => .ok (some fresh, some ((WriteRules.newborn object).withVersion (some fresh)))

/-- A write over what is stored, if the version allows it. -/
def overwrite {α : Type} (object : Object kind) (entry : Entry kind) (outcome : (stored : Object kind) → α) :
    Except StoreError α :=
  match entry with
  | some stored => (WriteRules.matchVersion stored object).map fun () => outcome stored
  | none => .error (.notFound kind object.key)

def update (object : Object kind) (fresh : String) (entry : Entry kind) :
    Except StoreError (Option String × Entry kind) :=
  overwrite object entry fun stored =>
    if WriteRules.isReleased (WriteRules.revise stored object) then (none, none)
    else (some fresh, some ((WriteRules.revise stored object).withVersion (some fresh)))

def updateStatus (object : Object kind) (fresh : String) (entry : Entry kind) :
    Except StoreError (Option String × Entry kind) :=
  overwrite object entry fun stored =>
    (some fresh, some ((WriteRules.reviseStatus stored object).withVersion (some fresh)))

def delete (object : Object kind) (now : Timestamp) (fresh : String) (entry : Entry kind) :
    Except StoreError (Unit × Entry kind) :=
  match entry with
  | some stored =>
    if WriteRules.isAwaitingRelease stored then .ok ((), some stored)
    else .ok ((), (WriteRules.mark? stored now).map (·.withVersion (some fresh)))
  | none => .error (.notFound kind object.key)

theorem overwrite_eq_ok_iff {α : Type} {object : Object kind} {entry : Entry kind} {rule : Object kind → α}
    {outcome : α} : overwrite object entry rule = .ok outcome ↔
      ∃ stored, entry = some stored ∧ WriteRules.matchVersion stored object = .ok () ∧ rule stored = outcome := by
  cases entry with
  | none => simp [overwrite]
  | some stored =>
    cases matched : WriteRules.matchVersion stored object with
    | error refused => simp [overwrite, matched, Except.map]
    | ok _ => simp [overwrite, matched, Except.map]

end Entry

namespace Contents

variable {kind : Kind} {α : Type}

def settle (contents : Contents) (key : ObjectKey) (outcome : Except StoreError (α × Entry kind)) :
    Except Failure α × Contents :=
  match outcome with
  | .ok (answer, entry) => (.ok answer, contents.set kind key entry)
  | .error error => (.error (.store error), contents)

def serve (fresh : String) (now : Timestamp) (contents : Contents) :
    (request : StoreRequest) → Except Failure request.Answer × Contents
  | .get kind key => contents.settle key (Entry.get key (contents kind key))
  | @StoreRequest.create kind object =>
    contents.settle object.key (Entry.create object fresh (contents kind object.key))
  | @StoreRequest.update kind object =>
    contents.settle object.key (Entry.update object fresh (contents kind object.key))
  | @StoreRequest.updateStatus kind object =>
    contents.settle object.key (Entry.updateStatus object fresh (contents kind object.key))
  | @StoreRequest.delete kind object =>
    contents.settle object.key (Entry.delete object now fresh (contents kind object.key))

theorem settle_eq_ok {contents : Contents} {key : ObjectKey} {outcome : Except StoreError (α × Entry kind)} {answer : α}
    (answered : (contents.settle key outcome).1 = .ok answer) :
    ∃ entry, outcome = .ok (answer, entry) ∧ (contents.settle key outcome).2 = contents.set kind key entry := by
  cases outcome with
  | error refused => cases answered
  | ok result =>
    cases answered
    exact ⟨result.2, rfl, rfl⟩

theorem settle_eq_error {contents : Contents} {key : ObjectKey} {outcome : Except StoreError (α × Entry kind)}
    {failure : Failure} (refused : (contents.settle key outcome).1 = .error failure) :
    ∃ error, outcome = .error error ∧ failure = .store error := by
  cases outcome with
  | error error =>
    cases refused
    exact ⟨error, rfl, rfl⟩
  | ok result => cases refused

/-! Each request, by what it finds. -/

section Found

variable {fresh : String} {now : Timestamp} {contents : Contents} {key : ObjectKey} {stored object : Object kind}

theorem serve_get_of_found (found : contents kind key = some stored) :
    contents.serve fresh now (.get kind key) = (.ok stored, contents) := by
  have current := set_current contents kind key
  rw [found] at current
  simp only [serve, Entry.get, found, settle, current]

theorem serve_get_of_absent (absent : contents kind key = none) :
    contents.serve fresh now (.get kind key) = (.error (.store (.notFound kind key)), contents) := by
  simp only [serve, Entry.get, absent, settle]

theorem serve_create_of_absent (absent : contents kind object.key = none) :
    contents.serve fresh now (.create object) =
      (.ok (some fresh),
        contents.set kind object.key (some ((WriteRules.newborn object).withVersion (some fresh)))) := by
  simp only [serve, Entry.create, absent, settle]

theorem serve_create_of_found (found : contents kind object.key = some stored) :
    contents.serve fresh now (.create object) =
      (.error (.store (.alreadyExists kind object.key)), contents) := by
  simp only [serve, Entry.create, found, settle]

theorem serve_update_of_found (found : contents kind object.key = some stored)
    (matched : WriteRules.matchVersion stored object = .ok ()) :
    contents.serve fresh now (.update object) =
      if WriteRules.isReleased (WriteRules.revise stored object) then
        (.ok none, contents.set kind object.key none)
      else
        (.ok (some fresh),
          contents.set kind object.key (some ((WriteRules.revise stored object).withVersion (some fresh)))) := by
  simp only [serve, Entry.update, Entry.overwrite, found, matched, Except.map]
  split <;> rfl

theorem serve_update_of_refused {refused : StoreError} (found : contents kind object.key = some stored)
    (matched : WriteRules.matchVersion stored object = .error refused) :
    contents.serve fresh now (.update object) = (.error (.store refused), contents) := by
  simp only [serve, Entry.update, Entry.overwrite, found, matched, Except.map, settle]

theorem serve_updateStatus_of_found (found : contents kind object.key = some stored)
    (matched : WriteRules.matchVersion stored object = .ok ()) :
    contents.serve fresh now (.updateStatus object) =
      (.ok (some fresh),
        contents.set kind object.key (some ((WriteRules.reviseStatus stored object).withVersion (some fresh)))) := by
  simp only [serve, Entry.updateStatus, Entry.overwrite, found, matched, Except.map, settle]

theorem serve_delete_of_absent (absent : contents kind object.key = none) :
    contents.serve fresh now (.delete object) = (.error (.store (.notFound kind object.key)), contents) := by
  simp only [serve, Entry.delete, absent, settle]

theorem serve_delete_of_awaiting (found : contents kind object.key = some stored)
    (awaiting : WriteRules.isAwaitingRelease stored = true) :
    contents.serve fresh now (.delete object) = (.ok (), contents) := by
  have current := set_current contents kind object.key
  rw [found] at current
  simp only [serve, Entry.delete, found, awaiting, ↓reduceIte, settle, current]

theorem serve_delete_of_found (found : contents kind object.key = some stored)
    (present : WriteRules.isAwaitingRelease stored = false) :
    contents.serve fresh now (.delete object) =
      (.ok (), contents.set kind object.key ((WriteRules.mark? stored now).map (·.withVersion (some fresh)))) := by
  simp only [serve, Entry.delete, found, present, Bool.false_eq_true, ↓reduceIte, settle]

end Found

/-- What a request may write, apart from the version. -/
inductive Written (contents : Contents) (now : Timestamp) : (request : StoreRequest) → Object request.kind → Prop
  | created {kind : Kind} (object : Object kind) : Written contents now (.create object) (WriteRules.newborn object)
  | revised {kind : Kind} {object stored : Object kind} : contents kind object.key = some stored →
    WriteRules.isReleased (WriteRules.revise stored object) = false →
    Written contents now (.update object) (WriteRules.revise stored object)
  | reported {kind : Kind} {object stored : Object kind} : contents kind object.key = some stored →
    Written contents now (.updateStatus object) (WriteRules.reviseStatus stored object)
  | marked {kind : Kind} {object stored marked : Object kind} : contents kind object.key = some stored →
    WriteRules.mark? stored now = some marked → Written contents now (.delete object) marked

/-- The entry of a rule is what it was before, or nothing, or what the rule wrote. -/
theorem settle_writes {contents : Contents} {key : ObjectKey} {outcome : Except StoreError (α × Entry kind)}
    {written : Object kind → Prop}
    (rule : ∀ answer object, outcome = .ok (answer, some object) → contents kind key = some object ∨ written object) :
    ∃ entry : Entry kind, (contents.settle key outcome).2 = contents.set kind key entry ∧
      ∀ object, entry = some object → contents kind key = some object ∨ written object := by
  cases outcome with
  -- To leave the contents as they are is to write the entry that is there.
  | error refused => exact ⟨_, (set_current contents kind key).symm, fun object => .inl⟩
  | ok pair =>
    obtain ⟨answer, entry⟩ := pair
    refine ⟨entry, rfl, ?_⟩
    rintro object rfl
    exact rule answer object rfl

theorem serve_writes (fresh : String) (now : Timestamp) (contents : Contents) (request : StoreRequest) :
    ∃ entry : Entry request.kind,
      (contents.serve fresh now request).2 = contents.set request.kind request.key entry ∧
      ∀ object, entry = some object → contents request.kind request.key = some object ∨
        ∃ written, Written contents now request written ∧ object = written.withVersion (some fresh) := by
  cases request with
  | get kind key =>
    refine settle_writes fun answer other left => .inl ?_
    unfold Entry.get at left
    split at left
    · next stored found =>
      cases left
      exact found
    · cases left
  | @create kind object =>
    refine settle_writes fun answer other left => .inr ?_
    unfold Entry.create at left
    split at left
    · cases left
    · cases left
      exact ⟨_, .created object, rfl⟩
  | @update kind object =>
    refine settle_writes fun answer other left => .inr ?_
    obtain ⟨stored, found, _, rule⟩ := Entry.overwrite_eq_ok_iff.mp left
    split at rule
    · cases rule
    · next held =>
      cases rule
      exact ⟨_, .revised found (Bool.eq_false_iff.mpr held), rfl⟩
  | @updateStatus kind object =>
    refine settle_writes fun answer other left => .inr ?_
    obtain ⟨stored, found, _, rule⟩ := Entry.overwrite_eq_ok_iff.mp left
    cases rule
    exact ⟨_, .reported found, rfl⟩
  | @delete kind object =>
    refine settle_writes fun answer other left => ?_
    unfold Entry.delete at left
    split at left
    · next stored found =>
      split at left
      · cases left
        exact .inl found
      · obtain ⟨marked, held, rfl⟩ := Option.map_eq_some_iff.mp (congrArg Prod.snd (Except.ok.inj left))
        exact .inr ⟨marked, .marked found held, rfl⟩
    · cases left

/-- What holds of all that is there and of all that the request may write holds of all that is there then. -/
theorem serve_all {fresh : String} {now : Timestamp} {contents : Contents} {request : StoreRequest}
    {holds : (kind : Kind) → ObjectKey → Object kind → Prop}
    (before : ∀ kind key object, contents kind key = some object → holds kind key object)
    (writes : ∀ written, Written contents now request written →
      holds request.kind request.key (written.withVersion (some fresh)))
    {kind : Kind} {key : ObjectKey} {object : Object kind}
    (found : (contents.serve fresh now request).2 kind key = some object) : holds kind key object := by
  obtain ⟨entry, after, left⟩ := serve_writes fresh now contents request
  rw [after] at found
  by_cases here : request.kind = kind ∧ request.key = key
  · obtain ⟨rfl, rfl⟩ := here
    rw [set_self] at found
    obtain there | ⟨written, rule, rfl⟩ := left object found
    · exact before _ _ object there
    · exact writes written rule
  · exact before kind key object (by simpa [set, here] using found)

theorem found_serve {fresh : String} {now : Timestamp} {contents : Contents} {request : StoreRequest} {kind : Kind}
    {key : ObjectKey} {object : Object kind} (found : (contents.serve fresh now request).2 kind key = some object) :
    contents kind key = some object ∨
      (kind = request.kind ∧ key = request.key ∧ object.metadata.version = some fresh) := by
  let holds : (kind : Kind) → ObjectKey → Object kind → Prop := fun kind key object =>
    contents kind key = some object ∨ (kind = request.kind ∧ key = request.key ∧ object.metadata.version = some fresh)
  have all : holds kind key object :=
    serve_all (fun _ _ _ => .inl) (fun _ _ => .inr ⟨rfl, rfl, rfl⟩) found
  exact all

/-- Nothing lies in the store whose deletion is requested and that has no finalizer. -/
def Present (contents : Contents) : Prop :=
  ∀ kind key (object : Object kind), contents kind key = some object → WriteRules.isReleased object = false

theorem Written.present {now : Timestamp} {contents : Contents} (present : contents.Present) {request : StoreRequest}
    {object : Object request.kind} (written : Written contents now request object) :
    WriteRules.isReleased object = false := by
  cases written with
  | created object => rfl
  | revised found held => exact held
  | @reported kind _ stored found => exact present kind _ stored found
  | marked found held => exact WriteRules.not_isReleased_of_mark? held

theorem Present.serve (fresh : String) (now : Timestamp) {contents : Contents} (present : contents.Present)
    (request : StoreRequest) : (contents.serve fresh now request).2.Present :=
  fun _ _ _ found => serve_all present (fun _ written => written.present present) found

end Contents

end ClaimOperator

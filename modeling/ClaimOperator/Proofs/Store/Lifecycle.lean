import ClaimOperator.Proofs.Store.Counting

/-! The life of a record.

What one request can make of the entry under a key is said once; from it follows what
holds of a record from the moment at which it enters a local store until it leaves,
whatever the objects are that the requests hand in.
-/

set_option autoImplicit false

namespace ClaimOperator

namespace Entry

inductive Turn {kind : Kind} (now : Timestamp) (key : ObjectKey) : StoreRequest → Entry kind → Entry kind → Prop
  | kept {request : StoreRequest} (entry : Entry kind) : Turn now key request entry entry
  | entered {object newborn : Object kind} : object.key = key → newborn.metadata.deletionTime = none →
    Turn now key (.create object) none (some newborn)
  | rewritten {request : StoreRequest} {stored written : Object kind} :
    written.metadata.deletionTime = stored.metadata.deletionTime → Turn now key request (some stored) (some written)
  | marked {object stored marked : Object kind} : object.key = key → stored.metadata.deletionTime = none →
    marked.metadata.deletionTime = some now → Turn now key (.delete object) (some stored) (some marked)
  | discarded {object stored : Object kind} : object.key = key → stored.metadata.finalizers = [] →
    Turn now key (.delete object) (some stored) none
  | released {object stored : Object kind} : object.key = key → stored.isLeaving = true →
    object.metadata.finalizers = [] → Turn now key (.update object) (some stored) none

variable {kind : Kind} {now : Timestamp} {fresh : String} {object : Object kind} {entry after : Entry kind}
  {version : Option String}

theorem turn_get {key : ObjectKey} (read : get key entry = .ok (object, after)) :
    Turn now key (.get kind key) entry after := by
  unfold get at read
  split at read
  · cases read
    exact .kept _
  · cases read

theorem turn_create (created : create object fresh entry = .ok (version, after)) :
    Turn now object.key (.create object) entry after := by
  unfold create at created
  split at created
  · cases created
  · cases created
    exact .entered rfl rfl

theorem turn_update (updated : update object fresh entry = .ok (version, after)) :
    Turn now object.key (.update object) entry after := by
  obtain ⟨stored, rfl, _, outcome⟩ := overwrite_eq_ok_iff.mp updated
  split at outcome
  · next gone =>
    cases outcome
    obtain ⟨leaving, bare⟩ := Bool.and_eq_true_iff.mp gone
    refine .released rfl leaving ?_
    simpa [WriteRules.isHeld, WriteRules.revise] using bare
  · cases outcome
    exact .rewritten rfl

theorem turn_updateStatus (updated : updateStatus object fresh entry = .ok (version, after)) :
    Turn now object.key (.updateStatus object) entry after := by
  obtain ⟨stored, rfl, _, outcome⟩ := overwrite_eq_ok_iff.mp updated
  cases outcome
  exact .rewritten rfl

theorem turn_delete (deleted : delete object now fresh entry = .ok ((), after)) :
    Turn now object.key (.delete object) entry after := by
  unfold delete at deleted
  split at deleted
  · next stored =>
    split at deleted
    · cases deleted
      exact .kept _
    · next acts =>
      cases deleted
      cases held : WriteRules.isHeld stored with
      | true =>
        have unmarked : stored.metadata.deletionTime = none := by
          simpa [WriteRules.isAwaitingRelease, held, Object.isLeaving] using acts
        rw [WriteRules.mark?, if_pos held]
        refine .marked rfl unmarked ?_
        simp [Object.withVersion, unmarked]
      | false =>
        rw [WriteRules.mark?, if_neg (by simp [held])]
        refine .discarded rfl ?_
        simpa [WriteRules.isHeld] using held
  · cases deleted

end Entry

namespace Contents

variable {fresh : String} {now : Timestamp} {contents : Contents} {request : StoreRequest}

theorem settle_turn {kind : Kind} {key : ObjectKey} {α : Type} {outcome : Except StoreError (α × Entry kind)}
    (rule : ∀ {answer entry}, outcome = .ok (answer, entry) → Entry.Turn now key request (contents kind key) entry)
    (other : Kind) (place : ObjectKey) :
    Entry.Turn now place request (contents other place) ((contents.settle key outcome).2 other place) := by
  cases outcome with
  | error refused => exact .kept _
  | ok result =>
    obtain ⟨answer, entry⟩ := result
    by_cases here : kind = other ∧ key = place
    · obtain ⟨rfl, rfl⟩ := here
      simpa [settle] using rule rfl
    · simpa [settle, set, here] using .kept (contents other place)

theorem serve_turn (fresh : String) (now : Timestamp) (contents : Contents) (request : StoreRequest) (kind : Kind)
    (key : ObjectKey) :
    Entry.Turn now key request (contents kind key) ((contents.serve fresh now request).2 kind key) := by
  cases request with
  | get _ _ => exact settle_turn Entry.turn_get kind key
  | create object => exact settle_turn Entry.turn_create kind key
  | update object => exact settle_turn Entry.turn_update kind key
  | updateStatus object => exact settle_turn Entry.turn_updateStatus kind key
  | delete object => exact settle_turn Entry.turn_delete kind key

end Contents

namespace History

section Turns

variable {σ : Type} [Counting σ] {history : History}

theorem recorded_turn {place : Nat} {request : StoreRequest} {now : Timestamp}
    (here : history[place]? = some ⟨request, now⟩) (kind : Kind) (key : ObjectKey) :
    Entry.Turn now key request (history.recorded σ place kind key) (history.recorded σ (place + 1) kind key) := by
  have served := serve_recorded (σ := σ) here
  have after : history.recorded σ (place + 1) = ((history.recorded σ place).serve _ now request).2 :=
    (congrArg Prod.snd served).symm
  rw [after]
  exact Contents.serve_turn _ now _ request kind key

theorem turn_of_changed {place : Nat} {kind : Kind} {key : ObjectKey}
    (changed : history.recorded σ (place + 1) kind key ≠ history.recorded σ place kind key) :
    ∃ request now, history[place]? = some ⟨request, now⟩ ∧
      Entry.Turn now key request (history.recorded σ place kind key) (history.recorded σ (place + 1) kind key) := by
  cases here : history[place]? with
  | none =>
    rw [recorded, recorded, reached_succ_of_ended here] at changed
    exact absurd rfl changed
  | some call => exact ⟨call.request, call.now, rfl, recorded_turn here kind key⟩

theorem present_recorded (history : History) (moment : Nat) : (history.recorded σ moment).Present := by
  induction moment with
  | zero =>
    have bare : history.recorded σ 0 = Contents.empty := LocalStore.contents_empty
    rw [bare]
    exact fun _ _ _ found => nomatch found
  | succ moment ih =>
    cases here : history[moment]? with
    | none =>
      rw [recorded, reached_succ_of_ended here]
      exact ih
    | some call =>
      rw [recorded, reached_succ here]
      exact Counting.present_serve (history.counted moment) ih call.request call.now

theorem enters_unmarked {moment : Nat} {kind : Kind} {key : ObjectKey} {object : Object kind}
    (absent : history.recorded σ moment kind key = none)
    (found : history.recorded σ (moment + 1) kind key = some object) : object.metadata.deletionTime = none := by
  have changed : history.recorded σ (moment + 1) kind key ≠ history.recorded σ moment kind key := by
    simp [absent, found]
  obtain ⟨request, now, _, turn⟩ := turn_of_changed changed
  rw [absent, found] at turn
  cases turn with
  | entered _ unmarked => exact unmarked

/-- One step keeps the time at which a record was marked, if it keeps the record. -/
theorem keeps_mark {moment : Nat} {kind : Kind} {key : ObjectKey} {stored object : Object kind} {time : Timestamp}
    (found : history.recorded σ moment kind key = some stored) (marked : stored.metadata.deletionTime = some time)
    (found' : history.recorded σ (moment + 1) kind key = some object) : object.metadata.deletionTime = some time := by
  by_cases changed : history.recorded σ (moment + 1) kind key = history.recorded σ moment kind key
  · cases found'.symm.trans (changed.trans found)
    exact marked
  · obtain ⟨request, now, _, turn⟩ := turn_of_changed changed
    rw [found, found'] at turn
    cases turn with
    | kept => exact marked
    | rewritten same => exact same.trans marked
    | marked _ unmarked _ => cases marked.symm.trans unmarked

theorem keeps_mark_while_held {earlier later : Nat} {kind : Kind} {key : ObjectKey} {stored object : Object kind}
    {time : Timestamp} (order : earlier ≤ later) (held : history.Held σ earlier later kind key)
    (found : history.recorded σ earlier kind key = some stored) (marked : stored.metadata.deletionTime = some time)
    (found' : history.recorded σ later kind key = some object) : object.metadata.deletionTime = some time := by
  induction order generalizing object with
  | refl =>
    cases found.symm.trans found'
    exact marked
  | @step moment order ih =>
    obtain ⟨between, present⟩ := Option.ne_none_iff_exists'.mp (held moment order (Nat.le_succ moment))
    exact keeps_mark present (ih (held.until (Nat.le_succ moment)) present) found'

end Turns

section Definitions

variable (σ : Type) [LocalStore σ] (history : History) (place : Nat) {kind : Kind} (stored : Object kind)

def Discards : Prop :=
  ∃ (object : Object kind) (now : Timestamp), history[place]? = some ⟨.delete object, now⟩ ∧
    object.key = stored.key ∧ stored.metadata.finalizers = []

def Releases : Prop :=
  ∃ (object : Object kind) (now : Timestamp), history[place]? = some ⟨.update object, now⟩ ∧
    object.key = stored.key ∧ stored.isLeaving = true ∧ object.metadata.finalizers = []

/-- The rules by which records come, stay and go. -/
structure Lifecycle : Prop where
  held : ∀ {moment kind key} {object : Object kind}, history.recorded σ moment kind key = some object →
    object.metadata.deletionTime ≠ none → object.metadata.finalizers ≠ []
  enters : ∀ {moment kind key} {object : Object kind}, history.recorded σ moment kind key = none →
    history.recorded σ (moment + 1) kind key = some object → object.metadata.deletionTime = none
  -- Not given up in between: whatever was written meanwhile, it is the same time to the second.
  keepsMark : ∀ {earlier later kind key} {stored object : Object kind} {time : Timestamp}, earlier ≤ later →
    history.Held σ earlier later kind key → history.recorded σ earlier kind key = some stored →
    stored.metadata.deletionTime = some time → history.recorded σ later kind key = some object →
    object.metadata.deletionTime = some time
  leaves : ∀ {moment kind key} {stored : Object kind}, history.recorded σ moment kind key = some stored →
    history.recorded σ (moment + 1) kind key = none →
    history.Discards moment stored ∨ history.Releases moment stored
  -- The whole store, with its versions, is what it was before.
  deletedOnce : ∀ {moment kind now} {object stored : Object kind},
    history[moment]? = some ⟨.delete object, now⟩ → history.recorded σ moment kind object.key = some stored →
    stored.metadata.deletionTime ≠ none →
    (LocalStore.serve (.delete object) now (history.reached σ moment)).1 = .ok () ∧
      history.reached σ (moment + 1) = history.reached σ moment

end Definitions

section Leaving

variable {σ : Type} [Counting σ] {history : History} {kind : Kind}

theorem leaves_by {moment : Nat} {key : ObjectKey} {stored : Object kind}
    (found : history.recorded σ moment kind key = some stored)
    (gone : history.recorded σ (moment + 1) kind key = none) :
    history.Discards moment stored ∨ history.Releases moment stored := by
  have changed : history.recorded σ (moment + 1) kind key ≠ history.recorded σ moment kind key := by
    simp [found, gone]
  obtain ⟨request, now, here, turn⟩ := turn_of_changed changed
  have own : stored.key = key :=
    LocalStore.keyed (Counting.quiet (history.counted (σ := σ) moment)) kind key stored found
  rw [found, gone] at turn
  cases turn with
  | discarded same bare => exact .inl ⟨_, now, here, same.trans own.symm, bare⟩
  | released same leaving bare => exact .inr ⟨_, now, here, same.trans own.symm, leaving, bare⟩

/-- The rules hold over a store in which deleting a marked record a second time is no write. -/
theorem lifecycle_of_skips (history : History)
    (skips : ∀ {state : σ}, Counting.Counted state → ∀ {kind : Kind} {object stored : Object kind} (now : Timestamp),
      LocalStore.contents state kind object.key = some stored → WriteRules.isAwaitingRelease stored = true →
      (LocalStore.serve (.delete object) now state).2 = state) : history.Lifecycle σ where
  held {moment kind key object} found leaving bare := by
    have unreleased := history.present_recorded (σ := σ) moment kind key object found
    have leaves : object.isLeaving = true := Option.isSome_iff_ne_none.mpr leaving
    simp [WriteRules.isReleased, leaves, WriteRules.isHeld, bare] at unreleased
  enters := enters_unmarked
  keepsMark := keeps_mark_while_held
  leaves := leaves_by
  deletedOnce {moment kind now object stored} here found leaving := by
    have counted : Counting.Counted (history.reached σ moment) := history.counted moment
    have unreleased := history.present_recorded (σ := σ) moment kind object.key stored found
    have leaves : stored.isLeaving = true := Option.isSome_iff_ne_none.mpr leaving
    have awaiting : WriteRules.isAwaitingRelease stored = true := by
      simpa [WriteRules.isReleased, WriteRules.isAwaitingRelease, leaves] using unreleased
    exact ⟨Counting.answer_delete counted found, (reached_succ here).trans (skips counted now found awaiting)⟩

end Leaving

end History

theorem Tables.serve_delete_of_awaiting {store : Tables} {kind : Kind} {object stored : Object kind} (now : Timestamp)
    (found : store.find? kind object.key = some stored) (awaiting : WriteRules.isAwaitingRelease stored = true) :
    (serve (.delete object) now store).2 = store := by
  simp only [serve_delete, found, awaiting, ↓reduceIte]

theorem Rows.Connection.Quiet.serve_delete_of_awaiting {connection : Connection} (quiet : connection.Quiet)
    {kind : Kind} {object stored : Object kind} (now : Timestamp)
    (found : contents connection.rows kind object.key = some stored)
    (awaiting : WriteRules.isAwaitingRelease stored = true) :
    (Connection.serve (.delete object) now connection).2 = connection := by
  obtain ⟨absent, _⟩ | ⟨present, version, before, after, here, _, _, read, _⟩ := quiet.rows.look kind object.key
  · cases absent.symm.trans found
  · cases here.symm.trans found
    simp only [Connection.serve_delete, planDelete, read, bind, Except.bind, awaiting, ↓reduceIte, pure, Except.pure,
      performDelete]

/-- Whatever is asked of a local store, its records live by the rules. -/
theorem History.lifecycle (history : History) : history.Lifecycle Tables ∧ history.Lifecycle Rows.Connection := by
  constructor
  · exact history.lifecycle_of_skips fun _ _ _ _ now found awaiting =>
      Tables.serve_delete_of_awaiting now found awaiting
  · exact history.lifecycle_of_skips fun quiet _ _ _ now found awaiting =>
      quiet.serve_delete_of_awaiting now found awaiting

def History.parted : Timestamp := { Timestamp.epoch with date := { year := 1971, month := 1, day := 1 } }

/-- A claim comes with a deletion time that was made up, is marked for deletion, written as if it were not,
deleted once more and released. -/
def History.wholeLife : History :=
  let made : Claim :=
    { metadata := { key := ⟨"customer", "my-claim"⟩, finalizers := ["keep"], deletionTime := some .epoch }
      spec := { legalEntity := default }, status := {} }
  let plain : Claim := { made with metadata := { key := made.key, finalizers := ["keep", "more"] } }
  let bare : Claim := { made with metadata := { key := made.key } }
  [⟨.create made, .epoch⟩, ⟨.delete made, parted⟩, ⟨.update plain, .epoch⟩, ⟨.delete made, .epoch⟩,
    ⟨.update bare, .epoch⟩]

example : (List.range 6).map (fun moment =>
    (History.wholeLife.recorded Rows.Connection moment .claim ⟨"customer", "my-claim"⟩).map fun claim =>
      (claim.metadata.deletionTime, claim.metadata.finalizers, claim.metadata.version)) =
    [none, some (none, ["keep"], some "1"), some (some History.parted, ["keep"], some "2"),
      some (some History.parted, ["keep", "more"], some "3"),
      some (some History.parted, ["keep", "more"], some "3"), none] := by
  decide +kernel

end ClaimOperator

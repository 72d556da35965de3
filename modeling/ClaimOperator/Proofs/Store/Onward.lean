import ClaimOperator.Proofs.Store.Versions
import ClaimOperator.Reconcile.PhaseGate

/-! How far stored claims have come, and requests that take none of them back.

The phases are ranked, and what lies under a key may only be replaced by something of at
least its rank. Every request sees to that but one: a status is written as it is given, so
the phase that it carries must not lie behind the one that it is written over.
-/

set_option autoImplicit false

namespace ClaimOperator

/-- A claim goes from no phase through the two waiting ones to one of the last two. -/
def ClaimPhase.rank : Option ClaimPhase → Nat
  | none => 0
  | some .pending => 1
  | some .pendingProject => 2
  | some .ready | some .error => 3

theorem ClaimPhase.rank_le_of_canFollow {target : ClaimPhase} {current : Option ClaimPhase}
    (follows : target.canFollow current = true) : rank current ≤ rank (some target) := by
  cases target with
  | pending =>
    rw [(pending_canFollow_iff current).mp follows]
    decide
  | pendingProject =>
    rw [(pendingProject_canFollow_iff current).mp follows]
    decide
  | ready | error =>
    cases current with
    | none => decide
    | some phase => cases phase <;> decide

/-- The rank of the phase of a claim. References are not looked at. -/
def Object.progress : {kind : Kind} → Object kind → Nat
  | .claim, claim => ClaimPhase.rank claim.status.phase
  | .reference, _ => 0

theorem Object.progress_of_status {kind : Kind} {object other : Object kind} (same : object.status = other.status) :
    object.progress = other.progress := by
  cases kind with
  | claim => exact congrArg (fun status => ClaimPhase.rank status.phase) same
  | reference => rfl

/-- The request writes no phase that lies behind the one that it is written over. -/
def StoreRequest.Onward (contents : Contents) : StoreRequest → Prop
  | @updateStatus kind object => ∀ stored, contents kind object.key = some stored →
    WriteRules.matchVersion stored object = .ok () → stored.progress ≤ object.progress
  | _ => True

namespace Contents

variable {kind : Kind} {α : Type} {contents : Contents}

theorem settle_onward {key : ObjectKey} {outcome : Except StoreError (α × Entry kind)}
    (rule : ∀ answer stored written, contents kind key = some stored → outcome = .ok (answer, some written) →
      stored.progress ≤ written.progress)
    {other : Kind} {place : ObjectKey} {earlier later : Object other} (before : contents other place = some earlier)
    (after : (contents.settle key outcome).2 other place = some later) : earlier.progress ≤ later.progress := by
  cases outcome with
  | error refused => rw [Option.some.inj (before.symm.trans after)]
  | ok result =>
    obtain ⟨answer, entry⟩ := result
    by_cases here : kind = other ∧ key = place
    · obtain ⟨rfl, rfl⟩ := here
      have written : entry = some later := by simpa [settle] using after
      exact rule answer earlier later before (by rw [written])
    · have same : contents other place = some later := by simpa [settle, set, here] using after
      rw [Option.some.inj (before.symm.trans same)]

theorem serve_onward {fresh : String} {now : Timestamp} {request : StoreRequest} (onward : request.Onward contents)
    {other : Kind} {place : ObjectKey} {earlier later : Object other} (before : contents other place = some earlier)
    (after : (contents.serve fresh now request).2 other place = some later) : earlier.progress ≤ later.progress := by
  cases request with
  | get kind key =>
    refine settle_onward (fun answer stored written found read => ?_) before after
    simp only [found, Entry.get] at read
    cases read
    exact le_rfl
  | @create kind object =>
    refine settle_onward (fun answer stored written found made => ?_) before after
    simp only [found, Entry.create] at made
    cases made
  | @update kind object =>
    refine settle_onward (fun answer stored written found made => ?_) before after
    obtain ⟨stored', found', _, rule⟩ := Entry.overwrite_eq_ok_iff.mp made
    cases found.symm.trans found'
    -- An update takes over the status that is stored.
    split at rule
    · cases rule
    · cases rule
      exact Nat.le_of_eq (Object.progress_of_status rfl)
  | @updateStatus kind object =>
    refine settle_onward (fun answer stored written found made => ?_) before after
    obtain ⟨stored', found', matched, rule⟩ := Entry.overwrite_eq_ok_iff.mp made
    cases found.symm.trans found'
    cases rule
    exact (onward stored found matched).trans (Nat.le_of_eq (Object.progress_of_status rfl))
  | @delete kind object =>
    refine settle_onward (fun answer stored written found made => ?_) before after
    simp only [found, Entry.delete] at made
    split at made
    · cases made
      exact le_rfl
    · obtain ⟨marked, held, rfl⟩ := Option.map_eq_some_iff.mp (congrArg Prod.snd (Except.ok.inj made))
      obtain rfl := WriteRules.eq_of_mark? held
      exact Nat.le_of_eq (Object.progress_of_status rfl)

end Contents

namespace Tables

structure Forward (before after : Tables) : Prop where
  versioned : after.Versioned
  later : before.nextVersion ≤ after.nextVersion
  dated : ∀ key claim, after.find? .claim key = some claim →
    before.find? .claim key = some claim ∨ claim.metadata.version = some before.freshVersion
  onward : ∀ {key} {earlier later : Claim}, before.find? .claim key = some earlier →
    after.find? .claim key = some later → earlier.progress ≤ later.progress

variable {store : Tables}

theorem Versioned.idle (versioned : store.Versioned) : Forward store store where
  versioned := versioned
  later := le_rfl
  dated _ _ found := .inl found
  onward before after := by rw [Option.some.inj (before.symm.trans after)]

theorem Versioned.forward (versioned : store.Versioned) {request : StoreRequest} (onward : request.Onward store.find?)
    (now : Timestamp) : Forward store (Tables.serve request now store).2 where
  versioned := versioned.serve request now
  later := nextVersion_le_serve request now store
  dated _ _ found := (find?_serve found).imp id fun written => written.2.2.1
  onward before after := by
    rw [show find? (Tables.serve request now store).2 = _ from congrArg Prod.snd (serve_eq request now store)] at after
    exact Contents.serve_onward onward before after

end Tables

end ClaimOperator

import ClaimOperator.Proofs.Logic.Exact
import ClaimOperator.Proofs.Logic.Executions
import ClaimOperator.Proofs.Reconcile.Operations

/-! Single calls on a pair in front of a store, one after the other.

What an operation makes of the claim, and by which request it is written, is its plan. The plan depends on the
snapshot only, so each call has an equation: nothing is done without a plan; otherwise the snapshot is changed,
and then the store is asked to keep the change.
-/

set_option autoImplicit false

namespace ClaimOperator

/-- The two halves of a claim, by the requests that write them: metadata and spec, or the status. -/
inductive Half where
  | body
  | status
  deriving DecidableEq, Repr

namespace Half

variable {σ : Type}

def serve (half : Half) (serve : Service σ) (now : Timestamp) (claim : Claim) (store : σ) :
    Except Failure (Option String) × σ :=
  match half with
  | body => serve (.update claim) now store
  | status => serve (.updateStatus claim) now store

def merge (half : Half) (stored incoming : Claim) : Claim :=
  match half with
  | body => WriteRules.revise stored incoming
  | status => WriteRules.reviseStatus stored incoming

end Half

/-- What can be brought about on the claim of a pair. -/
inductive Aim where
  | opened
  | linked
  | held
  | released
  | inPhase (target : ClaimPhase)
  deriving DecidableEq, Repr

namespace Aim

def operation : Aim → Operation Change
  | opened => Pairing.openConditions
  | linked => Pairing.linkReference
  | held => Pairing.holdClaim
  | released => Pairing.releaseClaim
  | inPhase target => Pairing.enterPhase target

def half : Aim → Half
  | opened | inPhase _ => .status
  | linked | held | released => .body

def plan? (link : ObjectKey) (claim : Claim) : Aim → Option Claim
  | opened => if claim.status.conditions.isSome then none else some claim.opened
  | linked => if claim.spec.referenceLink = link then none else some (claim.linkedTo link)
  | held => if claim.hasMarker then none else some claim.addMarker
  | released => if claim.hasMarker then some claim.removeMarker else none
  | inPhase target => if target.canFollow claim.status.phase then some (claim.inPhase target) else none

def HoldsOf (link : ObjectKey) (claim : Claim) : Aim → Prop
  | opened => claim.status.conditions.isSome = true
  | linked => claim.spec.referenceLink = link
  | held => claim.hasMarker = true
  | released => claim.hasMarker = false
  | inPhase target => claim.status.phase = some target

variable {aim : Aim} {link : ObjectKey} {claim changed : Claim}

theorem holdsOf_withVersion (version : Option String) :
    aim.HoldsOf link (claim.withVersion version) ↔ aim.HoldsOf link claim := by
  cases aim <;> rfl

theorem holdsOf_of_plan? (planned : aim.plan? link claim = some changed) : aim.HoldsOf link changed := by
  cases aim <;>
    · simp only [plan?, Option.ite_none_left_eq_some, Option.ite_none_right_eq_some, Option.some.injEq] at planned
      obtain ⟨-, rfl⟩ := planned
      simp [HoldsOf, Object.opened, Object.linkedTo, Object.inPhase]

theorem plan?_of_holdsOf (holds : aim.HoldsOf link claim) : aim.plan? link claim = none := by
  cases aim with
  | inPhase target =>
    have entered : claim.status.phase = some target := holds
    simp [plan?, entered, ClaimPhase.canFollow]
  | _ => simp_all [plan?, HoldsOf]

end Aim

/-- The operations that see to it that something holds: of the claim, or that the reference is there. -/
inductive Duty where
  | aim (aim : Aim)
  | reference
  deriving DecidableEq, Repr

def Duty.operation : Duty → Operation Change
  | aim intended => intended.operation
  | reference => Pairing.provideReference

structure Custody (σ : Type) where
  pairing : Pairing
  store : σ

namespace Custody

variable {σ α β : Type} {serve : Service σ} {now : Timestamp} {custody : Custody σ}

abbrev claim (custody : Custody σ) : Claim := custody.pairing.claim

abbrev link (custody : Custody σ) : ObjectKey := custody.pairing.referenceKey

-- What is logged is of no consequence, so every call begins with an empty log.
def call (serve : Service σ) (now : Timestamp) (operation : Operation α) (custody : Custody σ) :
    Except Failure α × Custody σ :=
  let last := operation.execute (serve.handler now) custody.pairing ⟨custody.store, []⟩
  (last.outcome, ⟨last.pairing, last.state.store⟩)

/-- A write comes to an end: what was written has the version of the answer. -/
def settled (pairing : Pairing) (result : Except Failure (Option String) × σ) : Except Failure Unit × Custody σ :=
  match result.1 with
  | .ok version => (.ok (), ⟨pairing.holding (pairing.claim.withVersion version), result.2⟩)
  | .error failure => (.error failure, ⟨pairing, result.2⟩)

def amend (serve : Service σ) (now : Timestamp) (half : Half) (custody : Custody σ) :
    Option Claim → Except Failure Change × Custody σ
  | none => (.ok .unchanged, custody)
  | some changed =>
    let (outcome, after) := settled (custody.pairing.holding changed) (half.serve serve now changed custody.store)
    (outcome.map fun _ => .modified, after)

theorem amend_of_ok {half : Half} {changed : Claim} {version : Option String} {store : σ}
    (answered : half.serve serve now changed custody.store = (.ok version, store)) :
    custody.amend serve now half (some changed) =
      (.ok .modified, ⟨custody.pairing.holding (changed.withVersion version), store⟩) := by
  simp only [amend, answered]
  rfl

theorem amend_of_error {half : Half} {changed : Claim} {failure : Failure} {store : σ}
    (answered : half.serve serve now changed custody.store = (.error failure, store)) :
    custody.amend serve now half (some changed) = (.error failure, ⟨custody.pairing.holding changed, store⟩) := by
  simp only [amend, answered]
  rfl

open Operation Pairing

theorem call_of_ensures {operation : Operation α} {post : Except Failure α → Pairing → σ → Prop}
    (ensures : operation.Ensures (.exact serve now) post custody.pairing custody.store) :
    let (outcome, after) := custody.call serve now operation
    post outcome after.pairing after.store :=
  Action.Ensures.run_exact ensures []

theorem call_map (custody : Custody σ) (f : α → β) (operation : Operation α) (now : Timestamp) :
    custody.call serve now (f <$> operation) =
      ((custody.call serve now operation).1.map f, (custody.call serve now operation).2) := by
  simp only [call, map_eq_pure_bind, Operation.execute_bind]
  generalize operation.execute (serve.handler now) custody.pairing ⟨custody.store, []⟩ = last
  obtain ⟨outcome, pairing, state⟩ := last
  cases outcome <;> rfl

theorem call_eq_of_ensures {operation : Operation α} {result : Except Failure α × Custody σ}
    (ensures : operation.Ensures (.exact serve now) (fun outcome pairing store => (outcome, ⟨pairing, store⟩) = result)
      custody.pairing custody.store) : custody.call serve now operation = result :=
  call_of_ensures ensures

section Writes

variable {pairing : Pairing} {store : σ}

theorem ensures_writeClaim : writeClaim.Ensures (.exact serve now)
    (fun outcome after left =>
      (outcome, Custody.mk after left) = settled pairing (Half.body.serve serve now pairing.claim store))
    pairing store := by
  simp only [writeClaim, currentClaim, changeClaim, ensures_bind, ensures_get, ensures_pure, ensures_modify]
  refine (ensures_ask_exact (.update pairing.claim)).mpr ?_
  simp only [settled, Half.serve]
  cases (serve (.update pairing.claim) now store).1 <;> rfl

theorem ensures_writeStatus : writeStatus.Ensures (.exact serve now)
    (fun outcome after left =>
      (outcome, Custody.mk after left) = settled pairing (Half.status.serve serve now pairing.claim store))
    pairing store := by
  simp only [writeStatus, currentClaim, changeClaim, ensures_bind, ensures_get, ensures_pure, ensures_modify,
    ensures_notingFailure]
  refine (ensures_ask_exact (.updateStatus pairing.claim)).mpr ?_
  simp only [settled, Half.serve]
  cases (serve (.updateStatus pairing.claim) now store).1 <;> rfl

theorem ensures_modified {half : Half} {write : Operation Unit} {changed : Claim}
    (writes : write.Ensures (.exact serve now)
      (fun outcome after left => (outcome, Custody.mk after left) =
        settled (custody.pairing.holding changed) (half.serve serve now changed custody.store))
      (custody.pairing.holding changed) custody.store) :
    (write >>= fun _ => pure Change.modified).Ensures (.exact serve now)
      (fun outcome after left => (outcome, Custody.mk after left) = custody.amend serve now half (some changed))
      (custody.pairing.holding changed) custody.store := by
  rw [ensures_bind]
  refine writes.mono fun outcome after left wrote => ?_
  simp only [amend, ← wrote]
  cases outcome <;> rfl

end Writes

theorem call_aim (aim : Aim) : custody.call serve now aim.operation =
    custody.amend serve now aim.half (aim.plan? custody.link custody.claim) := by
  apply call_eq_of_ensures
  cases aim with
  | opened =>
    simp only [Aim.operation, openConditions, currentClaim, changeClaim, ensures_bind, ensures_get, ensures_pure,
      Aim.plan?]
    split
    · rfl
    · simp only [ensures_bind, ensures_modify, ensures_pure]
      exact (ensures_bind _ _).mp (ensures_modified ensures_writeStatus)
  | linked =>
    simp only [Aim.operation, linkReference, changeClaim, note, ensures_bind, ensures_get, Aim.plan?]
    split
    · rfl
    · simp only [ensures_bind, ensures_note, ensures_modify, ensures_pure]
      exact (ensures_bind _ _).mp (ensures_modified ensures_writeClaim)
  | held =>
    simp only [Aim.operation, holdClaim, currentClaim, changeClaim, note, ensures_bind, ensures_get, ensures_pure,
      Aim.plan?]
    split
    · rfl
    · simp only [ensures_bind, ensures_modify, ensures_note, ensures_notingFailure, ensures_pure]
      exact (ensures_bind _ _).mp (ensures_modified ensures_writeClaim)
  | released =>
    simp only [Aim.operation, releaseClaim, currentClaim, changeClaim, note, ensures_bind, ensures_get, ensures_pure,
      Aim.plan?]
    cases custody.claim.hasMarker with
    | false => rfl
    | true =>
      simp only [Bool.not_true, Bool.false_eq_true, ↓reduceIte, ensures_bind, ensures_modify, ensures_note,
        ensures_pure]
      exact (ensures_bind _ _).mp (ensures_modified ensures_writeClaim)
  | inPhase target =>
    simp only [Aim.operation, enterPhase, currentClaim, changeClaim, note, ensures_bind, ensures_get, ensures_pure,
      Aim.plan?]
    cases target.canFollow custody.claim.status.phase with
    | false => rfl
    | true =>
      simp only [Bool.not_true, Bool.false_eq_true, ↓reduceIte, ensures_bind, ensures_modify, ensures_note,
        ensures_pure]
      exact (ensures_bind _ _).mp (ensures_modified ensures_writeStatus)

/-- A call leaves the snapshot as intended, whether or not it could be written. -/
theorem plan?_after (serve : Service σ) (custody : Custody σ) (aim : Aim) (now : Timestamp) :
    let after := (custody.call serve now aim.operation).2
    aim.plan? after.link after.claim = none := by
  rw [call_aim]
  cases planned : aim.plan? custody.link custody.claim with
  | none => exact planned
  | some changed =>
    have holds := Aim.holdsOf_of_plan? planned
    cases answered : aim.half.serve serve now changed custody.store with
    | mk answer store =>
    cases answer with
    | ok version =>
      rw [amend_of_ok answered]
      exact Aim.plan?_of_holdsOf ((Aim.holdsOf_withVersion version).mpr holds)
    | error failure =>
      rw [amend_of_error answered]
      exact Aim.plan?_of_holdsOf holds

/-- The clock shows one time in a call, which no rule about runs can say. -/
theorem call_recordCondition_at (update : ConditionUpdate) :
    custody.call serve now (recordCondition update) = custody.call serve now (do
      match (← currentClaim).status.update? update now with
      | none => return .unchanged
      | some status =>
        changeClaim fun claim => { claim with status := status }
        writeStatus
        return .modified) := by
  simp only [call, recordCondition, execute_bind, execute_clock]
  rfl

theorem call_recordCondition (update : ConditionUpdate) : custody.call serve now (recordCondition update) =
    custody.amend serve now .status ((custody.claim.status.update? update now).map custody.claim.withStatus) := by
  rw [call_recordCondition_at]
  apply call_eq_of_ensures
  simp only [currentClaim, changeClaim, ensures_bind, ensures_get, ensures_pure]
  cases custody.claim.status.update? update now with
  | none => rfl
  | some status =>
    simp only [ensures_bind, ensures_modify, ensures_pure]
    exact (ensures_bind _ _).mp (ensures_modified ensures_writeStatus)

section References

variable {pairing : Pairing} {store : σ}

theorem ensures_provideReference {post : Except Failure Change → Pairing → σ → Prop}
    (found : ∀ reference after, serve (.get .reference pairing.referenceKey) now store = (.ok reference, after) →
      post (.ok .unchanged) (pairing.finding (some reference)) after)
    (missing : ∀ error after, serve (.get .reference pairing.referenceKey) now store = (.error (.store error), after) →
      error.category = .notFound → match serve (.create pairing.reference) now after with
        | (.ok version, left) =>
          post (.ok .modified) { pairing with reference := pairing.reference.withVersion version, found := none } left
        | (.error failure, left) => post (.error failure) (pairing.finding none) left)
    (failed : ∀ failure after, serve (.get .reference pairing.referenceKey) now store = (.error failure, after) →
      (∀ error, failure = .store error → error.category ≠ .notFound) → post (.error failure) pairing after) :
    provideReference.Ensures (.exact serve now) post pairing store := by
  simp only [provideReference, findReference, note, ensures_bind, ensures_get, ensures_tryCatch, ensures_map]
  refine (ensures_ask_exact (.get .reference pairing.referenceKey)).mpr ?_
  generalize served : serve (.get .reference pairing.referenceKey) now store = result at found missing failed ⊢
  obtain ⟨answer, after⟩ := result
  cases answer with
  | ok reference => exact found reference after rfl
  | error failure =>
    cases failure with
    | store error =>
      by_cases absent : error.category = .notFound
      · have created := missing error after rfl absent
        simp only [Except.map, absent, ↓reduceIte, ensures_pure, ensures_bind, ensures_modify, Option.isSome_none,
          Bool.false_eq_true, ensures_get, ensures_note]
        refine (ensures_ask_exact (.create pairing.reference)).mpr ?_
        generalize serve (.create pairing.reference) now after = result at created ⊢
        obtain ⟨version, left⟩ := result
        cases version <;> exact created
      · simp only [Except.map, absent, ↓reduceIte, ensures_throw]
        exact failed _ after rfl fun other same => by cases same; exact absent
    | _ => exact failed _ after rfl (by rintro _ ⟨⟩)

theorem ensures_discardReference {post : Except Failure Unit → Pairing → σ → Prop}
    (gone : ∀ answer after, serve (.delete (pairing.found.getD pairing.reference)) now store = (answer, after) →
      (answer = .ok () ∨ ∃ error, answer = .error (.store error) ∧ error.category = .notFound) →
      post (.ok ()) pairing after)
    (failed : ∀ failure after,
      serve (.delete (pairing.found.getD pairing.reference)) now store = (.error failure, after) →
      (∀ error, failure = .store error → error.category ≠ .notFound) → post (.error failure) pairing after) :
    discardReference.Ensures (.exact serve now) post pairing store := by
  simp only [discardReference, note, ensures_bind, ensures_get, ensures_note, ensures_tryCatch]
  refine (ensures_ask_exact (.delete (pairing.found.getD pairing.reference))).mpr ?_
  generalize serve (.delete (pairing.found.getD pairing.reference)) now store = result at gone failed ⊢
  obtain ⟨answer, after⟩ := result
  cases answer with
  | ok nothing => exact gone _ after rfl (.inl rfl)
  | error failure =>
    cases failure with
    | store error =>
      by_cases absent : error.category = .notFound
      · simp only [absent, ↓reduceIte, ensures_note]
        exact gone _ after rfl (.inr ⟨error, rfl, absent⟩)
      · simp only [absent, ↓reduceIte, ensures_throw]
        exact failed _ after rfl fun other same => by cases same; exact absent
    | _ => exact failed _ after rfl (by rintro _ ⟨⟩)

end References

def after {ε : Type} (serve : Service σ) (operation : ε → Operation α) (custody : Custody σ)
    (calls : List (ε × Timestamp)) : Custody σ :=
  calls.foldl (fun custody call => (custody.call serve call.2 (operation call.1)).2) custody

end Custody

/-! Requests for one half of a claim, by what they find. -/

namespace Half

variable {now : Timestamp} {contents : Contents} {incoming : Claim}

/-- How a store answers that holds these contents and gives out the version, and what it holds then. -/
inductive Served (half : Half) (fresh : String) (incoming : Claim) (contents : Contents) :
    Except Failure (Option String) × Contents → Prop
  | kept {stored : Claim} : contents .claim incoming.key = some stored →
    Served half fresh incoming contents (.ok (some fresh),
      contents.set .claim incoming.key (some ((half.merge stored incoming).withVersion (some fresh))))
  | left {stored : Claim} : contents .claim incoming.key = some stored →
    Served half fresh incoming contents (.ok none, contents.set .claim incoming.key none)
  | absent : contents .claim incoming.key = none →
    Served half fresh incoming contents (.error (.store (.notFound .claim incoming.key)), contents)
  | stale {stored : Claim} {error : StoreError} : contents .claim incoming.key = some stored →
    WriteRules.matchVersion stored incoming = .error error →
    Served half fresh incoming contents (.error (.store error), contents)

theorem served (half : Half) (fresh : String) (now : Timestamp) (incoming : Claim) (contents : Contents) :
    half.Served fresh incoming contents
      (half.serve (fun request now contents => contents.serve fresh now request) now incoming contents) := by
  cases half with
  | body =>
    simp only [serve, Contents.serve, Entry.update, Entry.overwrite]
    cases found : contents .claim incoming.key with
    | none => exact .absent found
    | some stored =>
      cases matched : WriteRules.matchVersion stored incoming with
      | error error =>
        simp only [matched, Except.map]
        exact .stale found matched
      | ok _ =>
        simp only [matched, Except.map]
        split
        · exact .left found
        · exact .kept found
  | status =>
    simp only [serve, Contents.serve, Entry.updateStatus, Entry.overwrite]
    cases found : contents .claim incoming.key with
    | none => exact .absent found
    | some stored =>
      cases matched : WriteRules.matchVersion stored incoming with
      | error error =>
        simp only [matched, Except.map]
        exact .stale found matched
      | ok _ =>
        simp only [matched, Except.map]
        exact .kept found

theorem served_tables (half : Half) (now : Timestamp) (incoming : Claim) (store : Tables) :
    half.Served store.freshVersion incoming store.find?
      ((half.serve Tables.serve now incoming store).1, (half.serve Tables.serve now incoming store).2.find?) := by
  have answered := half.served store.freshVersion now incoming store.find?
  cases half with
  | body => rwa [serve, ← Tables.serve_eq] at answered
  | status => rwa [serve, ← Tables.serve_eq] at answered

end Half

end ClaimOperator

import ClaimOperator.Proofs.Reconcile.Departure
import ClaimOperator.Proofs.Reconcile.Statuses

/-! Passes that find nothing to do.

An operation whose intent holds already asks for nothing, or only looks for the reference.
So a pass over a claim that is settled reads the claim and the reference, and leaves the
store as it is, to the letter.
-/

set_option autoImplicit false

namespace ClaimOperator

/-- A live claim that has gone through every step. -/
structure Object.Rested (link : ObjectKey) (claim : Claim) : Prop where
  live : claim.isLeaving = false
  complete : claim.missing link = []
  phase : ClaimStatus.restingPhase claim.status.phase = claim.status.phase
  noError : ∀ condition, claim.status.errorCondition? = some condition → condition.status = .isFalse

/-- The claim is settled, and passes over it come to this result. One that is to go is not held any more, and its
reference is gone or is to go as well. -/
inductive Contents.Settled (space : String) (contents : Contents) (claim : Claim) : PassResult → Prop
  | rested {reference : Reference} : claim.Rested (claim.key.referenceKey space) →
    contents .reference (claim.key.referenceKey space) = some reference → Settled space contents claim ⟨false, none⟩
  | parted : claim.isLeaving = true → claim.hasMarker = false →
    (∀ reference, contents .reference (claim.key.referenceKey space) = some reference → reference.isLeaving = true) →
    Settled space contents claim ⟨false, some .deletion⟩

theorem ClaimPhase.not_canFollow_of_resting {phase : Option ClaimPhase} (rests : ClaimStatus.restingPhase phase = phase) :
    pending.canFollow phase = false ∧ pendingProject.canFollow phase = false := by
  cases phase with
  | none => cases rests
  | some phase =>
    cases phase with
    | pending => cases rests
    | _ => exact ⟨rfl, rfl⟩

open Operation Pairing Pass

section Operations

variable {σ : Type} {regime : Regime σ} {pairing : Pairing} {state : σ}
  {post : Except Failure Change → Pairing → σ → Prop}

theorem Pairing.openConditions_idle (opened : pairing.claim.status.conditions.isSome = true)
    (idle : post (.ok .unchanged) pairing state) : openConditions.Ensures regime post pairing state := by
  simp only [openConditions, currentClaim, ensures_bind, ensures_get, ensures_pure, opened, ↓reduceIte]
  exact idle

theorem Pairing.enterPhase_idle {target : ClaimPhase} (barred : target.canFollow pairing.claim.status.phase = false)
    (idle : post (.ok .unchanged) pairing state) : (enterPhase target).Ensures regime post pairing state := by
  simp only [enterPhase, currentClaim, ensures_bind, ensures_get, ensures_pure, barred, Bool.not_false, ↓reduceIte]
  exact idle

theorem Pairing.linkReference_idle (linked : pairing.claim.spec.referenceLink = pairing.referenceKey)
    (idle : post (.ok .unchanged) pairing state) : linkReference.Ensures regime post pairing state := by
  simp only [linkReference, ensures_bind, ensures_get, ensures_pure, linked, ↓reduceIte]
  exact idle

theorem Pairing.holdClaim_idle (marked : pairing.claim.hasMarker = true)
    (idle : post (.ok .unchanged) pairing state) : holdClaim.Ensures regime post pairing state := by
  simp only [holdClaim, currentClaim, ensures_bind, ensures_get, ensures_pure, marked, ↓reduceIte]
  exact idle

theorem Pairing.releaseClaim_idle (unmarked : pairing.claim.hasMarker = false)
    (idle : post (.ok .unchanged) pairing state) : releaseClaim.Ensures regime post pairing state := by
  simp only [releaseClaim, currentClaim, ensures_bind, ensures_get, ensures_pure, unmarked, Bool.not_false, ↓reduceIte]
  exact idle

theorem Pass.retireError_idle
    (noError : ∀ condition, pairing.claim.status.errorCondition? = some condition → condition.status = .isFalse)
    (idle : post (.ok .unchanged) pairing state) : retireError.Ensures regime post pairing state := by
  simp only [retireError, currentClaim, ensures_bind, ensures_get, ensures_pure]
  cases standing : pairing.claim.status.errorCondition? with
  | none => exact idle
  | some condition =>
    simp only [noError condition standing, ↓reduceIte]
    exact idle

theorem Pass.runStages_idle {post : Except Failure (Option Step) → Pairing → σ → Prop} {stage : Stage}
    {rest : List Stage}
    (idle : stage.operation.Ensures regime (fun outcome pairing state =>
      outcome = .ok .unchanged ∧ (runStages rest).Ensures regime post pairing state) pairing state) :
    (runStages (stage :: rest)).Ensures regime post pairing state := by
  refine (ensures_runStages_cons stage.step stage.operation stage.endsPass rest).mpr (idle.mono ?_)
  rintro outcome pairing state ⟨rfl, goesOn⟩
  simpa [attempting, continuing] using goesOn

end Operations

section Exact

open Counting

variable {σ : Type} [Counting σ] {state : Journaled σ} {now : Timestamp} {pairing : Pairing} {space : String}
  {claim : Claim}

def Journaled.looked (state : Journaled σ) (space : String) (key : ObjectKey) : Journaled σ :=
  ⟨state.store, state.calls ++ [⟨.get, .reference, key.referenceKey space⟩]⟩

theorem Pairing.provideReference_idle (counted : Counted state.store) {reference : Reference}
    {post : Except Failure Change → Pairing → Journaled σ → Prop}
    (stored : LocalStore.contents state.store .reference pairing.referenceKey = some reference)
    (idle : post (.ok .unchanged) (pairing.finding (some reference))
      ⟨state.store, state.calls ++ [⟨.get, .reference, pairing.referenceKey⟩]⟩) :
    provideReference.Ensures (.exact (Service.journaled LocalStore.serve) now) post pairing state := by
  simp only [provideReference, ensures_bind]
  refine findReference_exact counted ?_
  rw [stored]
  simp only [Option.isSome_some, ↓reduceIte, ensures_pure]
  exact idle

/-- A pass over a claim at rest goes through all the stages, and looks for the reference on the way. -/
theorem Pass.run_rested (counted : Counted state.store) (rested : claim.Rested (claim.key.referenceKey space))
    {reference : Reference}
    (stored : LocalStore.contents state.store .reference (claim.key.referenceKey space) = some reference) :
    run.Ensures (.exact (Service.journaled LocalStore.serve) now)
      (fun outcome _ after => outcome = .ok ⟨false, none⟩ ∧ after = state.looked space claim.key)
      (.of claim space) state := by
  obtain ⟨opened, linked, marked⟩ := Object.missing_eq_nil_iff.mp rested.complete
  obtain ⟨pending, pendingProject⟩ := ClaimPhase.not_canFollow_of_resting rested.phase
  have current : (Pairing.of claim space).claim = claim := rfl
  simp only [run, runLive, currentClaim, ensures_bind, ensures_get, ensures_pure, current, rested.live,
    Bool.false_eq_true, ↓reduceIte]
  refine runStages_idle (openConditions_idle opened ⟨rfl, ?_⟩)
  refine runStages_idle (enterPhase_idle pending ⟨rfl, ?_⟩)
  refine runStages_idle (linkReference_idle linked ⟨rfl, ?_⟩)
  refine runStages_idle (holdClaim_idle marked ⟨rfl, ?_⟩)
  refine runStages_idle (provideReference_idle counted stored ⟨rfl, ?_⟩)
  refine runStages_idle (enterPhase_idle pendingProject ⟨rfl, ?_⟩)
  simp only [runStages, ensures_pure, ensures_bind, ensures_discard, ensures_attempt]
  exact retireError_idle rested.noError ⟨trivial, rfl⟩

/-- What is left to write for a claim that is to go and is not held: the reference is deleted, once. -/
def Pass.discarding (space : String) (contents : Contents) (claim : Claim) : Option StoreRequest :=
  match contents .reference (claim.key.referenceKey space) with
  | some reference => if reference.isLeaving then none else some (.delete reference)
  | none => none

theorem Pass.discarding_eq_none {contents : Contents}
    (goes : ∀ reference, contents .reference (claim.key.referenceKey space) = some reference →
      reference.isLeaving = true) : discarding space contents claim = none := by
  unfold discarding
  split
  · next reference stored => rw [if_pos (goes reference stored)]
  · rfl

theorem Pass.discarding_of_live {contents : Contents} {reference : Reference}
    (stored : contents .reference (claim.key.referenceKey space) = some reference)
    (live : reference.isLeaving = false) : discarding space contents claim = some (.delete reference) := by
  simp only [discarding, stored, live, Bool.false_eq_true, ↓reduceIte]

theorem Pairing.advanceDeletion_unmarked (counted : Counted state.store) (unmarked : claim.hasMarker = false)
    {post : Except Failure Change → Pairing → Journaled σ → Prop}
    (ends : ∀ pairing : Pairing, pairing.claim = claim → post (.ok .unchanged) pairing
      ((Service.journaled LocalStore.serve).after now (state.looked space claim.key)
        (discarding space (LocalStore.contents state.store) claim))) :
    advanceDeletion.Ensures (.exact (Service.journaled LocalStore.serve) now) post (.of claim space) state := by
  simp only [advanceDeletion, ensures_bind]
  refine findReference_exact counted ?_
  have own : (Pairing.of claim space).referenceKey = claim.key.referenceKey space := rfl
  rw [own]
  unfold discarding at ends
  cases stored : LocalStore.contents state.store .reference (claim.key.referenceKey space) with
  | none =>
    rw [stored] at ends
    simp only [Option.isSome_none, Bool.false_eq_true, ↓reduceIte]
    exact releaseClaim_idle unmarked (ends _ rfl)
  | some reference =>
    rw [stored] at ends
    have same : ((Pairing.of claim space).finding (some reference)).isReferenceLeaving = reference.isLeaving := rfl
    simp only [Option.isSome_some, ↓reduceIte, ensures_bind, ensures_get, same]
    cases leaving : reference.isLeaving with
    | true =>
      simp only [leaving, ↓reduceIte] at ends
      simp only [↓reduceIte, ensures_pure]
      exact ends _ rfl
    | false =>
      simp only [leaving, Bool.false_eq_true, ↓reduceIte] at ends
      simp only [Bool.false_eq_true, ↓reduceIte, ensures_bind, ensures_pure]
      have key : reference.key = claim.key.referenceKey space :=
        LocalStore.keyed (quiet counted) .reference _ reference stored
      refine discardReference_exact ?_ rfl ?_ (ends ((Pairing.of claim space).finding (some reference)) rfl)
      · exact counted
      · rw [key]
        exact stored

theorem Pass.run_unmarked (counted : Counted state.store) (leaving : claim.isLeaving = true)
    (unmarked : claim.hasMarker = false) :
    run.Ensures (.exact (Service.journaled LocalStore.serve) now)
      (fun outcome _ after => outcome = .ok ⟨false, some .deletion⟩ ∧
        after = (Service.journaled LocalStore.serve).after now (state.looked space claim.key)
          (discarding space (LocalStore.contents state.store) claim)) (.of claim space) state := by
  have current : (Pairing.of claim space).claim = claim := rfl
  simp only [run, runDeleted, currentClaim, ensures_bind, ensures_get, ensures_pure, current, leaving,
    ↓reduceIte, ensures_discard, ensures_attempt]
  refine advanceDeletion_unmarked counted unmarked fun pairing same => ?_
  simp only [attempting, Except.map, same, unmarked, Bool.false_eq_true, ↓reduceIte, Pass.note, ensures_bind,
    ensures_note, ensures_pure]
  exact ⟨trivial, trivial⟩

end Exact

end ClaimOperator

import ClaimOperator.Proofs.Reconcile.Operations
import ClaimOperator.Reconcile.Pass

/-! The parts that every pass is made of: attempts, the record of an error, and stages in order. -/

set_option autoImplicit false

namespace ClaimOperator

theorem ConditionUpdate.applyTo?_isTrue (reason message : String) (now : Timestamp) (conditions : List Condition) :
    ∃ after, ConditionUpdate.applyTo? ⟨.isTrue, reason, message⟩ now conditions = some after := by
  induction conditions with
  | nil => exact ⟨_, rfl⟩
  | cons condition rest ih =>
    obtain ⟨after, applied⟩ := ih
    unfold ConditionUpdate.applyTo?
    split
    · exact ⟨_, rfl⟩
    · exact ⟨condition :: after, by rw [applied]; rfl⟩

namespace Pass

open Operation Pairing

variable {σ : Type} {regime : Regime σ} {pairing : Pairing} {state : σ}

/-- What an attempt asks of its operation: a store error is recorded and goes on to the caller. -/
def attempting (regime : Regime σ) (step : Step) (records : Bool) (post : Except Failure Change → Pairing → σ → Prop) :
    Except Failure Change → Pairing → σ → Prop
  | .ok change => post (.ok change)
  | .error (.store error) => (onStoreError step records error).Ensures regime post
  | .error failure => post (.error failure)

theorem attempting_store {post : Except Failure Change → Pairing → σ → Prop} (step : Step) (records : Bool)
    (error : StoreError) : attempting regime step records post (.error (.store error)) =
      (onStoreError step records error).Ensures regime post := rfl

theorem ensures_attempt {post : Except Failure Change → Pairing → σ → Prop} (step : Step) (records : Bool)
    (operation : Operation Change) :
    (attempt step records operation).Ensures regime post pairing state ↔
      operation.Ensures regime (attempting regime step records post) pairing state := by
  simp only [attempt, ensures_tryCatch]
  constructor
  all_goals
    intro ensures
    refine Operation.Ensures.mono ensures ?_
    intro outcome pairing state
    cases outcome with
    | ok change => exact id
    | error failure => cases failure <;> exact id

/-- What a stage asks of its attempt: the pass ends there, or the other stages follow. -/
def continuing (regime : Regime σ) (step : Step) (ends : Bool) (rest : List Stage)
    (post : Except Failure (Option Step) → Pairing → σ → Prop) : Except Failure Change → Pairing → σ → Prop
  | .ok change =>
    if ends && change = .modified then post (.ok (some step)) else (runStages rest).Ensures regime post
  | .error failure => post (.error failure)

theorem ensures_runStages_cons {post : Except Failure (Option Step) → Pairing → σ → Prop} (step : Step)
    (operation : Operation Change) (ends : Bool) (rest : List Stage) :
    (runStages (⟨step, operation, ends⟩ :: rest)).Ensures regime post pairing state ↔
      operation.Ensures regime (attempting regime step true (continuing regime step ends rest post)) pairing state := by
  rw [← ensures_attempt]
  simp only [runStages, ensures_bind]
  constructor
  all_goals
    intro ensures
    refine Operation.Ensures.mono ensures ?_
    intro outcome pairing state
    cases outcome with
    | ok change =>
      cases ends <;> cases change <;> exact id
    | error failure => exact id

theorem ensures_onStoreError_unrecorded {post : Except Failure Change → Pairing → σ → Prop} (step : Step)
    (error : StoreError) (ends : post (.error (.store error)) pairing state) :
    (onStoreError step false error).Ensures regime post pairing state := by
  simp only [onStoreError, note, currentClaim, ensures_bind, ensures_get, ensures_pure, ensures_note,
    ensures_throw, Bool.false_eq_true, ↓reduceIte]
  exact ends

variable {injected : StoreError → Prop} {keeps : Contents → Prop} {contents : Contents} {stored : Claim}

/-- The record of an error goes over the status of the stored claim, or is lost with a failure of its own.
Either way the error goes on to the caller. -/
theorem ensures_onStoreError {post : Except Failure Change → Pairing → Contents → Prop} (step : Step)
    (error : StoreError) (found : contents .claim pairing.claim.key = some stored)
    (version : pairing.claim.metadata.version = stored.metadata.version) (kept : keeps contents)
    (recorded : ∀ now status,
      pairing.claim.status.update? ⟨.isTrue, step.text, error.message⟩ now = some status → ∀ fresh : String,
      let after := contents.set .claim pairing.claim.key
        (some ((stored.withStatus status).withVersion (some fresh)))
      keeps after ∧ ∀ pairing', post (.error (.store error)) pairing' after)
    (lost : ∀ another, injected another → ∀ pairing', post (.error (.store error)) pairing' contents) :
    (onStoreError step true error).Ensures (.alone injected keeps) post pairing contents := by
  have certain : ∀ now, pairing.claim.status.update? ⟨.isTrue, step.text, error.message⟩ now ≠ none := by
    intro now none_written
    obtain ⟨after, applied⟩ := ConditionUpdate.applyTo?_isTrue step.text error.message now
      (pairing.claim.status.conditions.getD [])
    simp [ClaimStatus.update?, applied] at none_written
  simp only [onStoreError, noteOnClaim, note, currentClaim, ensures_bind, ensures_get, ensures_pure, ensures_note,
    ensures_tryCatch, ensures_discard, ensures_throw, ↓reduceIte]
  refine ensures_recordCondition _ found version ?_ ?_ ?_
  · exact fun now nothing => absurd nothing (certain now)
  · intro now status updated fresh
    obtain ⟨after, ends⟩ := recorded now status updated fresh
    exact ⟨after, ends _⟩
  · intro now status updated another injects
    exact ⟨kept, lost another injects _⟩

theorem ensures_retireError {post : Except Failure Change → Pairing → Contents → Prop}
    (current : pairing.Current contents) (unchanged : post (.ok .unchanged) pairing contents)
    (saves : ∀ now condition status, pairing.claim.status.errorCondition? = some condition →
      condition.status ≠ .isFalse →
      pairing.claim.status.update? ⟨.isFalse, settledReason, ""⟩ now = some status →
      Saves injected keeps post pairing contents (pairing.claim.withStatus status)) :
    retireError.Ensures (.alone injected keeps) post pairing contents := by
  simp only [retireError, currentClaim, ensures_bind, ensures_get, ensures_pure]
  cases standing : pairing.claim.status.errorCondition? with
  | none => exact unchanged
  | some condition =>
    by_cases past : condition.status = .isFalse
    · simp only [past, ↓reduceIte]
      exact unchanged
    · simp only [past, ↓reduceIte]
      refine ensures_recordCondition _ current rfl ?_ ?_ ?_
      · exact fun _ _ => unchanged
      · exact fun now status updated => (saves now condition status standing past updated).written
      · exact fun now status updated => (saves now condition status standing past updated).failed

end Pass

end ClaimOperator

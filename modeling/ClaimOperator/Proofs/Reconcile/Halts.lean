import ClaimOperator.Proofs.Logic.Executions
import ClaimOperator.Proofs.Reconcile.Stages
import ClaimOperator.Proofs.Store.Orderly

/-! Passes that end at a recorded step because it failed with a store error.

The stages before the step went through, so a halt fixes the pair and the state that the
record of the error starts from. The record is one write of the claim's status; what leaves
the pass is the error of the step, unless that write fails with something else than a store
error.
-/

set_option autoImplicit false

namespace ClaimOperator

def ClaimStatus.flagged (status : ClaimStatus) (step : Step) (error : StoreError) (now : Timestamp) : ClaimStatus :=
  (status.update? ⟨.isTrue, step.text, error.message⟩ now).getD status

theorem ClaimStatus.update?_isTrue (status : ClaimStatus) (step : Step) (error : StoreError) (now : Timestamp) :
    status.update? ⟨.isTrue, step.text, error.message⟩ now = some (status.flagged step error now) := by
  obtain ⟨after, applied⟩ := ConditionUpdate.applyTo?_isTrue step.text error.message now (status.conditions.getD [])
  simp [flagged, update?, applied]

namespace Pass

open Operation Pairing

/-- A recorded step that failed with a store error: the pair as it left it, and the state before it and after it. -/
structure Halt (σ : Type) where
  step : Step
  error : StoreError
  pairing : Pairing
  before : σ
  after : σ

variable {σ : Type}

/-- The stages go through in order, up to the one that halts. -/
inductive Halts (handle : Handler σ) : List Stage → Pairing → σ → Halt σ → Prop
  | here {stage : Stage} {rest : List Stage} {pairing left : Pairing} {state after : σ} {error : StoreError} :
    stage.operation.execute handle pairing state = ⟨.error (.store error), left, after⟩ →
    Halts handle (stage :: rest) pairing state ⟨stage.step, error, left, state, after⟩
  | later {stage : Stage} {rest : List Stage} {pairing left : Pairing} {state after : σ} {change : Change}
    {halt : Halt σ} :
    stage.operation.execute handle pairing state = ⟨.ok change, left, after⟩ →
    (stage.endsPass && change = .modified) = false → Halts handle rest left after halt →
    Halts handle (stage :: rest) pairing state halt

namespace Halt

variable (halt : Halt σ) (handle : Handler σ)

def handling : Execution σ Change := (onStoreError halt.step true halt.error).execute handle halt.pairing halt.after

def warned : σ :=
  (handle (.note ⟨.warning, .reconcile, "Step " ++ halt.step.text ++ " failed for " ++
    claimTitle halt.pairing.claim ++ ": " ++ halt.error.message⟩) halt.after).2

def flagged : Claim :=
  halt.pairing.claim.withStatus
    (halt.pairing.claim.status.flagged halt.step halt.error (handle .clock (halt.warned handle)).1)

def answered : Except Failure (Option String) × σ :=
  handle (.ask (.updateStatus (halt.flagged handle))) (handle .clock (halt.warned handle)).2

def leaving : Failure :=
  match (halt.answered handle).1 with
  | .ok _ | .error (.store _) => .store halt.error
  | .error failure => failure

end Halt

variable {handle : Handler σ} {list : List Stage} {pairing : Pairing} {state : σ} {halt : Halt σ}

theorem execute_writeStatus :
    writeStatus.execute handle pairing state =
      match handle (.ask (.updateStatus pairing.claim)) state with
      | (.ok version, after) => ⟨.ok (), pairing.holding (pairing.claim.withVersion version), after⟩
      | (.error failure, after) => ⟨.error failure, pairing, (handle (.note ⟨.error, .application,
          "Failed to update ProjectClaim state for " ++ pairing.claim.key.name⟩) after).2⟩ := by
  simp only [writeStatus, currentClaim, changeClaim, notingFailure, Operation.note, execute_bind, execute_get,
    execute_pure, Execution.follow_ok, execute_tryCatch]
  rw [execute_ask (.updateStatus pairing.claim)]
  obtain ⟨answer, after⟩ := handle (.ask (.updateStatus pairing.claim)) state
  cases answer with
  | ok version => rfl
  | error failure =>
    simp only [Execution.follow_error, Execution.rescue_error, execute_bind, execute_note, Execution.follow_ok,
      execute_throw]

theorem execute_recordCondition (step : Step) (error : StoreError) :
    (recordCondition ⟨.isTrue, step.text, error.message⟩).execute handle pairing state =
      let (now, timed) := handle .clock state
      let flagged := pairing.claim.withStatus (pairing.claim.status.flagged step error now)
      (writeStatus.execute handle (pairing.holding flagged) timed).follow fun _ pairing state =>
        ⟨.ok .modified, pairing, state⟩ := by
  simp only [recordCondition, currentClaim, changeClaim, execute_bind, execute_clock, execute_get, execute_pure,
    Execution.follow_ok, ClaimStatus.update?_isTrue, execute_modify]
  rfl

namespace Halt

theorem execute_record :
    (noteOnClaim halt.step halt.error).execute handle halt.pairing (halt.warned handle) =
      match halt.answered handle with
      | (.ok version, after) => ⟨.ok (), halt.pairing.holding ((halt.flagged handle).withVersion version), after⟩
      | (.error failure, after) =>
        let failed := (handle (.note ⟨.error, .application,
          "Failed to update ProjectClaim state for " ++ halt.pairing.claim.key.name⟩) after).2
        match failure with
        | .store _ => ⟨.ok (), halt.pairing.holding (halt.flagged handle),
            (handle (.note ⟨.error, .reconcile, "Could not record " ++ halt.step.text ++ " on " ++
              claimTitle halt.pairing.claim⟩) failed).2⟩
        | failure => ⟨.error failure, halt.pairing.holding (halt.flagged handle), failed⟩ := by
  have written : writeStatus.execute handle (halt.pairing.holding (halt.flagged handle))
    (handle .clock (halt.warned handle)).2 = _ := execute_writeStatus
  have asked : handle (.ask (.updateStatus (halt.flagged handle))) (handle .clock (halt.warned handle)).2 =
    halt.answered handle := rfl
  simp only [noteOnClaim, execute_tryCatch, execute_discard, execute_recordCondition]
  rw [show halt.pairing.claim.withStatus (halt.pairing.claim.status.flagged halt.step halt.error
    (handle .clock (halt.warned handle)).1) = halt.flagged handle from rfl, written,
    show (halt.pairing.holding (halt.flagged handle)).claim = halt.flagged handle from rfl, asked]
  obtain ⟨answer, after⟩ := halt.answered handle
  cases answer with
  | ok version => rfl
  | error failure => cases failure <;> rfl

theorem handling_eq :
    halt.handling handle =
      ((noteOnClaim halt.step halt.error).execute handle halt.pairing (halt.warned handle)).follow
        fun _ pairing state => ⟨.error (.store halt.error), pairing, state⟩ := by
  simp only [handling, onStoreError, note, currentClaim, execute_bind, execute_get, execute_pure, execute_note,
    Execution.follow_ok, ↓reduceIte]
  rfl

theorem outcome_handling : (halt.handling handle).outcome = .error (halt.leaving handle) := by
  rw [handling_eq, execute_record, leaving]
  obtain ⟨answer, after⟩ := halt.answered handle
  cases answer with
  | ok version => rfl
  | error failure => cases failure <;> rfl

theorem answered_handler (serve : Service σ) (now : Timestamp) (halt : Halt (Logged σ)) :
    (halt.answered (serve.handler now)).1 =
      (serve (.updateStatus (halt.flagged (serve.handler now))) now halt.after.store).1 := rfl

theorem store_handling (serve : Service σ) (now : Timestamp) (halt : Halt (Logged σ)) :
    (halt.handling (serve.handler now)).state.store =
      (serve (.updateStatus (halt.flagged (serve.handler now))) now halt.after.store).2 := by
  have asked : (serve (.updateStatus (halt.flagged (serve.handler now))) now halt.after.store).2 =
    (halt.answered (serve.handler now)).2.store := rfl
  rw [handling_eq, execute_record, asked]
  obtain ⟨answer, after⟩ := halt.answered (serve.handler now)
  cases answer with
  | ok version => rfl
  | error failure => cases failure <;> rfl

/-- The error of the step is masked by nothing but a failure that is no store error. -/
theorem leaving_eq_iff :
    halt.leaving handle = .store halt.error ↔ Orderly (fun _ => True) (halt.answered handle).1 := by
  rw [leaving]
  cases (halt.answered handle).1 with
  | ok version => simp
  | error failure => cases failure <;> simp [Orderly]

end Halt

theorem Halts.execute_runStages (halts : Halts handle list pairing state halt) :
    (runStages list).execute handle pairing state =
      ⟨.error (halt.leaving handle), (halt.handling handle).pairing, (halt.handling handle).state⟩ := by
  induction halts with
  | @here stage rest pairing left state after error failed =>
    have outcome : (Halt.handling ⟨stage.step, error, left, state, after⟩ handle).outcome = _ := Halt.outcome_handling
    have attempted : (attempt stage.step true stage.operation).execute handle pairing state =
        Halt.handling ⟨stage.step, error, left, state, after⟩ handle := by
      simp only [attempt, execute_tryCatch, failed, Execution.rescue_error]
      rfl
    simp only [runStages, execute_bind, attempted, Execution.follow, outcome]
  | @later stage rest pairing left state after change halt passed goesOn halts ih =>
    have attempted : (attempt stage.step true stage.operation).execute handle pairing state =
        ⟨.ok change, left, after⟩ := by
      simp only [attempt, execute_tryCatch, passed, Execution.rescue_ok]
    simp only [runStages, execute_bind, attempted, Execution.follow_ok, goesOn, Bool.false_eq_true, ↓reduceIte, ih]

theorem Halts.execute_run (live : pairing.claim.isLeaving = false) (halts : Halts handle stages pairing state halt) :
    run.execute handle pairing state =
      ⟨.error (halt.leaving handle), (halt.handling handle).pairing, (halt.handling handle).state⟩ := by
  simp only [run, currentClaim, execute_bind, execute_get, execute_pure, Execution.follow_ok, live, Bool.false_eq_true,
    ↓reduceIte, runLive, halts.execute_runStages, Execution.follow_error]

end Pass

end ClaimOperator

import ClaimOperator.Proofs.Logic.Operations
import ClaimOperator.Reconcile.Pass

/-! Invariants of a pair and a state that an operation keeps, however it ends.

Such an invariant is passed on from part to part without a look at what the parts answer,
so what is built of operations that keep it keeps it, too.
-/

set_option autoImplicit false

namespace ClaimOperator.Operation

variable {σ α β : Type} {regime : Regime σ} {invariant : Pairing → σ → Prop}

def Keeps (regime : Regime σ) (invariant : Pairing → σ → Prop) (operation : Operation α) : Prop :=
  ∀ pairing state, invariant pairing state → operation.Ensures regime (fun _ => invariant) pairing state

namespace Keeps

theorem pure (value : α) : Keeps regime invariant (Pure.pure value : Operation α) := fun _ _ before => before

theorem throw (failure : Failure) : Keeps regime invariant (MonadExcept.throw failure : Operation α) :=
  fun _ _ before => before

theorem get : Keeps regime invariant (MonadState.get : Operation Pairing) := fun _ _ before => before

theorem modifies {change : Pairing → Pairing}
    (kept : ∀ pairing state, invariant pairing state → invariant (change pairing) state) :
    Keeps regime invariant (modify change : Operation Unit) := kept

theorem note (level : Log.Level) (channel : Log.Channel) (message : String) :
    Keeps regime invariant (lift (Action.note level channel message)) :=
  fun _ _ before => (ensures_note level channel message).mpr before

theorem clock : Keeps regime invariant (lift Action.clock) :=
  fun _ _ before => ensures_clock.mpr fun _ => before

theorem bind {operation : Operation α} {rest : α → Operation β} (first : Keeps regime invariant operation)
    (next : ∀ value, Keeps regime invariant (rest value)) : Keeps regime invariant (operation >>= rest) := by
  intro pairing state before
  refine (ensures_bind operation rest).mpr ((first pairing state before).mono ?_)
  intro outcome pairing state kept
  cases outcome with
  | ok value => exact next value pairing state kept
  | error failure => exact kept

theorem tryCatch {operation : Operation α} {rescue : Failure → Operation α} (first : Keeps regime invariant operation)
    (next : ∀ failure, Keeps regime invariant (rescue failure)) :
    Keeps regime invariant (MonadExcept.tryCatch operation rescue : Operation α) := by
  intro pairing state before
  refine (ensures_tryCatch operation rescue).mpr ((first pairing state before).mono ?_)
  intro outcome pairing state kept
  cases outcome with
  | ok value => exact kept
  | error failure => exact next failure pairing state kept

theorem map {operation : Operation α} (f : α → β) (first : Keeps regime invariant operation) :
    Keeps regime invariant (f <$> operation) :=
  fun pairing state before => (ensures_map f operation).mpr (first pairing state before)

theorem discard {operation : Operation α} (first : Keeps regime invariant operation) :
    Keeps regime invariant (Functor.discard operation) :=
  fun pairing state before => (ensures_discard operation).mpr (first pairing state before)

theorem ite {condition : Prop} [Decidable condition] {first second : Operation α}
    (holds : Keeps regime invariant first) (fails : Keeps regime invariant second) :
    Keeps regime invariant (if condition then first else second) := by
  split
  · exact holds
  · exact fails

end Keeps

end ClaimOperator.Operation

namespace ClaimOperator.Pass

open Operation Pairing

variable {σ : Type} {regime : Regime σ} {invariant : Pairing → σ → Prop}

theorem keeps_note (level : Log.Level) (message : String) : Keeps regime invariant (note level message) :=
  .note level .reconcile message

theorem keeps_currentClaim : Keeps regime invariant currentClaim := .bind .get fun _ => .pure _

theorem keeps_onStoreError (step : Step) (recorded : Bool) (error : StoreError)
    (records : recorded = true → ∀ update, Keeps regime invariant (recordCondition update)) :
    Keeps regime invariant (onStoreError step recorded error) := by
  refine .bind keeps_currentClaim fun _ => .bind (keeps_note _ _) fun _ => ?_
  cases recorded with
  | false => exact .throw _
  | true =>
    have noted : Keeps regime invariant (noteOnClaim step error) := by
      refine .tryCatch (.discard (records rfl _)) fun failure => ?_
      cases failure with
      | store another => exact .bind keeps_currentClaim fun _ => keeps_note _ _
      | _ => exact .throw _
    exact .bind noted fun _ => .throw _

theorem keeps_attempt (step : Step) (recorded : Bool) {operation : Operation Change}
    (keeps : Keeps regime invariant operation)
    (records : recorded = true → ∀ update, Keeps regime invariant (recordCondition update)) :
    Keeps regime invariant (attempt step recorded operation) := by
  refine .tryCatch keeps fun failure => ?_
  cases failure with
  | store error => exact keeps_onStoreError step recorded error records
  | _ => exact .throw _

section Records

variable (records : ∀ update, Keeps regime invariant (recordCondition update))

include records

theorem keeps_runStages {list : List Stage} (keeps : ∀ stage ∈ list, Keeps regime invariant stage.operation) :
    Keeps regime invariant (runStages list) := by
  induction list with
  | nil => exact .pure none
  | cons stage rest ih =>
    refine .bind (keeps_attempt stage.step true (keeps stage List.mem_cons_self) fun _ => records) fun change => ?_
    exact .ite (.pure _) (ih fun other member => keeps other (List.mem_cons_of_mem _ member))

theorem keeps_retireError : Keeps regime invariant retireError := by
  refine .bind keeps_currentClaim fun claim => ?_
  split
  · exact .pure _
  · exact .ite (.pure _) (records _)

theorem keeps_runLive (keeps : ∀ stage ∈ stages, Keeps regime invariant stage.operation) :
    Keeps regime invariant runLive := by
  refine .bind (keeps_runStages records keeps) fun stop => ?_
  cases stop with
  | some step => exact .pure _
  | none =>
    exact .bind (.discard (keeps_attempt .recovery false (keeps_retireError records) nofun)) fun _ => .pure _

end Records

end ClaimOperator.Pass

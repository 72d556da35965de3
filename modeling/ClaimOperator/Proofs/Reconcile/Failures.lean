import ClaimOperator.Proofs.Reconcile.Masking

/-! The failures of a pass.

A pass raises nothing of its own: over a store that fails with store errors only, it ends
with a result or with a store error, whatever it is run over and wherever it stops.
-/

set_option autoImplicit false

namespace ClaimOperator

namespace Operation

variable {σ α β : Type} {handle : Handler σ} {sound : σ → Prop}

/-- Wherever the operation starts, it ends with a value or a store error, and in a sound state. -/
def Clean (handle : Handler σ) (sound : σ → Prop) (operation : Operation α) : Prop :=
  ∀ pairing state, sound state → Orderly (fun _ => True) (operation.execute handle pairing state).outcome ∧
    sound (operation.execute handle pairing state).state

namespace Clean

theorem pure (value : α) : Clean handle sound (Pure.pure value : Operation α) := fun _ _ before => ⟨trivial, before⟩

theorem throw (error : StoreError) : Clean handle sound (MonadExcept.throw (.store error) : Operation α) :=
  fun _ _ before => ⟨.store error, before⟩

theorem get : Clean handle sound (MonadState.get : Operation Pairing) := fun _ _ before => ⟨trivial, before⟩

theorem modifies (change : Pairing → Pairing) : Clean handle sound (modify change : Operation Unit) :=
  fun _ _ before => ⟨trivial, before⟩

theorem bind {operation : Operation α} {rest : α → Operation β} (first : Clean handle sound operation)
    (next : ∀ value, Clean handle sound (rest value)) : Clean handle sound (operation >>= rest) := by
  intro pairing state before
  rw [execute_bind]
  have ended := first pairing state before
  generalize operation.execute handle pairing state = execution at ended
  obtain ⟨outcome, left, after⟩ := execution
  cases outcome with
  | ok value => exact next value left after ended.2
  | error failure => exact ended

theorem tryCatch {operation : Operation α} {rescue : Failure → Operation α} (first : Clean handle sound operation)
    (next : ∀ error, Clean handle sound (rescue (.store error))) :
    Clean handle sound (MonadExcept.tryCatch operation rescue : Operation α) := by
  intro pairing state before
  rw [execute_tryCatch]
  have ended := first pairing state before
  generalize operation.execute handle pairing state = execution at ended
  obtain ⟨outcome, left, after⟩ := execution
  cases outcome with
  | ok value => exact ended
  | error failure =>
    obtain ⟨⟨error, rfl⟩, still⟩ := ended
    exact next error left after still

theorem map {operation : Operation α} (f : α → β) (first : Clean handle sound operation) :
    Clean handle sound (f <$> operation) := by
  rw [map_eq_pure_bind]
  exact first.bind fun value => .pure (f value)

theorem discard {operation : Operation α} (first : Clean handle sound operation) :
    Clean handle sound (Functor.discard operation) := first.map _

theorem ite {condition : Prop} [Decidable condition] {first second : Operation α}
    (holds : Clean handle sound first) (fails : Clean handle sound second) :
    Clean handle sound (if condition then first else second) := by
  split
  · exact holds
  · exact fails

section Effects

variable (steady : handle.Steady sound)

include steady

theorem ask (request : StoreRequest) : Clean handle sound (Operation.ask request) :=
  fun _ _ before => ⟨steady.answers before request, steady.keeps before _⟩

theorem note (level : Log.Level) (channel : Log.Channel) (message : String) :
    Clean handle sound (lift (Action.note level channel message)) :=
  fun _ _ before => ⟨trivial, steady.keeps before _⟩

theorem clock : Clean handle sound (lift Action.clock) := fun _ _ before => ⟨trivial, steady.keeps before _⟩

theorem notingFailure (message : String) {operation : Operation α} (first : Clean handle sound operation) :
    Clean handle sound (Operation.notingFailure message operation) :=
  first.tryCatch fun error => (note steady _ _ _).bind fun _ => throw error

end Effects

end Clean

end Operation

section Passes

open Operation Pairing

variable {σ : Type} {handle : Handler σ} {sound : σ → Prop} (steady : handle.Steady sound)

theorem Pairing.clean_currentClaim : Clean handle sound currentClaim := Clean.get.bind fun _ => .pure _

include steady

theorem Pairing.clean_writeClaim : Clean handle sound writeClaim :=
  clean_currentClaim.bind fun _ => (Clean.ask steady _).bind fun _ => .modifies _

theorem Pairing.clean_writeStatus : Clean handle sound writeStatus :=
  clean_currentClaim.bind fun _ => .notingFailure steady _ ((Clean.ask steady _).bind fun _ => .modifies _)

theorem Pairing.clean_findReference : Clean handle sound findReference := by
  apply Clean.get.bind
  intro pairing
  have found : Clean handle sound (some <$> Operation.ask (.get .reference pairing.referenceKey)) :=
    (Clean.ask steady _).map some
  apply Clean.bind
  · apply found.tryCatch
    intro error
    exact .ite (.pure none) (.throw error)
  · exact fun _ => (Clean.modifies _).bind fun _ => .pure _

theorem Pairing.clean_discardReference : Clean handle sound discardReference := by
  apply Clean.get.bind
  intro pairing
  apply (Clean.note steady _ _ _).bind
  intro _
  apply (Clean.ask steady _).tryCatch
  intro error
  exact .ite (.note steady _ _ _) (.throw error)

theorem Pairing.clean_openConditions : Clean handle sound openConditions :=
  clean_currentClaim.bind fun _ => .ite (.pure _) <|
    (Clean.modifies _).bind fun _ => (clean_writeStatus steady).bind fun _ => .pure _

theorem Pairing.clean_linkReference : Clean handle sound linkReference := by
  apply Clean.get.bind
  intro pairing
  apply Clean.ite
  · exact .pure _
  · exact (Clean.note steady _ _ _).bind fun _ => (Clean.modifies _).bind fun _ =>
      (clean_writeClaim steady).bind fun _ => .pure _

theorem Pairing.clean_holdClaim : Clean handle sound holdClaim := by
  apply clean_currentClaim.bind
  intro claim
  apply Clean.ite
  · exact .pure _
  · exact (Clean.modifies _).bind fun _ => (Clean.note steady _ _ _).bind fun _ =>
      (Clean.notingFailure steady _ (clean_writeClaim steady)).bind fun _ => .pure _

theorem Pairing.clean_releaseClaim : Clean handle sound releaseClaim := by
  apply clean_currentClaim.bind
  intro claim
  apply Clean.ite
  · exact .pure _
  · exact (Clean.modifies _).bind fun _ => (Clean.note steady _ _ _).bind fun _ =>
      (clean_writeClaim steady).bind fun _ => .pure _

theorem Pairing.clean_provideReference : Clean handle sound provideReference := by
  apply (clean_findReference steady).bind
  intro found
  apply Clean.ite
  · exact .pure _
  · apply Clean.get.bind
    intro pairing
    exact (Clean.note steady _ _ _).bind fun _ => (Clean.ask steady _).bind fun _ =>
      (Clean.modifies _).bind fun _ => .pure _

theorem Pairing.clean_enterPhase (target : ClaimPhase) : Clean handle sound (enterPhase target) := by
  apply clean_currentClaim.bind
  intro claim
  apply Clean.ite
  · exact .pure _
  · exact (Clean.note steady _ _ _).bind fun _ => (Clean.modifies _).bind fun _ =>
      (clean_writeStatus steady).bind fun _ => .pure _

theorem Pairing.clean_recordCondition (update : ConditionUpdate) : Clean handle sound (recordCondition update) := by
  apply (Clean.clock steady).bind
  intro now
  apply clean_currentClaim.bind
  intro claim
  split
  · exact .pure _
  · exact (Clean.modifies _).bind fun _ => (clean_writeStatus steady).bind fun _ => .pure _

theorem Pairing.clean_advanceDeletion : Clean handle sound advanceDeletion := by
  apply (clean_findReference steady).bind
  intro found
  apply Clean.ite
  · apply Clean.get.bind
    intro pairing
    exact .ite (.pure _) ((clean_discardReference steady).bind fun _ => .pure _)
  · exact clean_releaseClaim steady

theorem Pass.clean_attempt (step : Step) (records : Bool) {operation : Operation Change}
    (clean : Clean handle sound operation) : Clean handle sound (attempt step records operation) := by
  have noted : ∀ message, Clean handle sound (note .error message) := fun _ => .note steady _ _ _
  apply clean.tryCatch
  intro error
  apply clean_currentClaim.bind
  intro claim
  apply (Clean.note steady _ _ _).bind
  intro _
  have raised : Clean handle sound (throw (.store error) : Operation Change) := .throw error
  cases records with
  | false => exact raised
  | true =>
    have recorded : Clean handle sound (noteOnClaim step error) :=
      (Clean.discard (clean_recordCondition steady _)).tryCatch fun another =>
        clean_currentClaim.bind fun _ => noted _
    exact recorded.bind fun _ => raised

theorem Pass.clean_runStages {list : List Stage} (clean : ∀ stage ∈ list, Clean handle sound stage.operation) :
    Clean handle sound (runStages list) := by
  induction list with
  | nil => exact .pure none
  | cons stage rest ih =>
    apply (clean_attempt steady stage.step true (clean stage List.mem_cons_self)).bind
    intro change
    exact .ite (.pure _) (ih fun other member => clean other (List.mem_cons_of_mem _ member))

theorem Pass.clean_stages : ∀ stage ∈ stages, Clean handle sound stage.operation := by
  intro stage member
  simp only [stages, List.mem_cons, List.not_mem_nil, or_false] at member
  obtain rfl | rfl | rfl | rfl | rfl | rfl := member
  · exact clean_openConditions steady
  · exact clean_enterPhase steady .pending
  · exact clean_linkReference steady
  · exact clean_holdClaim steady
  · exact clean_provideReference steady
  · exact clean_enterPhase steady .pendingProject

theorem Pass.clean_retireError : Clean handle sound retireError := by
  apply clean_currentClaim.bind
  intro claim
  split
  · exact .pure _
  · exact .ite (.pure _) (clean_recordCondition steady _)

theorem Pass.clean_run : Clean handle sound run := by
  apply clean_currentClaim.bind
  intro claim
  apply Clean.ite
  · apply (Clean.discard (clean_attempt steady .deletion false (clean_advanceDeletion steady))).bind
    intro _
    apply clean_currentClaim.bind
    intro claim
    exact .ite (.pure _) ((Clean.note steady _ _ _).bind fun _ => .pure _)
  · apply (clean_runStages steady (clean_stages steady)).bind
    intro stop
    cases stop with
    | some step => exact .pure _
    | none => exact (Clean.discard (clean_attempt steady .recovery false (clean_retireError steady))).bind fun _ => .pure _

end Passes

end ClaimOperator

import ClaimOperator.Proofs.Logic.Regime
import ClaimOperator.Reconcile.Pairing

/-! What an operation on a pair ensures: about its outcome, the pair after it and the state.

Every way to build an operation has its rule, so the demand on an operation unfolds
into demands on the requests that it makes.
-/

set_option autoImplicit false

namespace ClaimOperator.Operation

variable {σ α β : Type}

/-- An operation fails with its pair kept, so the failure of the first one ends the run where it stands. -/
theorem runOn_bind (operation : Operation α) (rest : α → Operation β) (pairing : Pairing) :
    (operation >>= rest).runOn pairing =
      operation.runOn pairing >>= fun result =>
        match result.1 with
        | .ok value => (rest value).runOn result.2
        | .error failure => Action.done (.error failure, result.2) := by
  simp only [runOn, ExceptT.run_bind, StateT.run_bind]
  congr 1
  funext result
  obtain ⟨outcome, pairing⟩ := result
  cases outcome <;> rfl

theorem runOn_tryCatch (operation : Operation α) (rescue : Failure → Operation α) (pairing : Pairing) :
    (tryCatch operation rescue : Operation α).runOn pairing =
      operation.runOn pairing >>= fun result =>
        match result.1 with
        | .ok value => Action.done (.ok value, result.2)
        | .error failure => (rescue failure).runOn result.2 := by
  simp only [runOn, tryCatch, tryCatchThe, MonadExceptOf.tryCatch, ExceptT.tryCatch, ExceptT.run_mk, StateT.run_bind]
  congr 1
  funext result
  obtain ⟨outcome, pairing⟩ := result
  cases outcome <;> rfl

theorem runOn_lift (action : Action α) (pairing : Pairing) :
    (lift action : Operation α).runOn pairing = action >>= fun value => Action.done (.ok value, pairing) := by
  simp [runOn, lift, ExceptT.lift]
  rfl

variable {regime : Regime σ}

def Ensures (regime : Regime σ) (post : Except Failure α → Pairing → σ → Prop) (operation : Operation α)
    (pairing : Pairing) (state : σ) : Prop :=
  (operation.runOn pairing).Ensures regime (fun result => post result.1 result.2) state

variable {post : Except Failure α → Pairing → σ → Prop} {pairing : Pairing} {state : σ}

theorem Ensures.mono {weaker : Except Failure α → Pairing → σ → Prop} {operation : Operation α}
    (ensures : operation.Ensures regime post pairing state)
    (weakens : ∀ outcome pairing state, post outcome pairing state → weaker outcome pairing state) :
    operation.Ensures regime weaker pairing state :=
  Action.Ensures.mono ensures fun result state => weakens result.1 result.2 state

@[simp] theorem ensures_pure (value : α) :
    Ensures regime post (pure value : Operation α) pairing state ↔ post (.ok value) pairing state := Iff.rfl

@[simp] theorem ensures_throw (failure : Failure) :
    Ensures regime post (throw failure : Operation α) pairing state ↔ post (.error failure) pairing state := Iff.rfl

@[simp] theorem ensures_bind {post : Except Failure β → Pairing → σ → Prop} (operation : Operation α)
    (rest : α → Operation β) :
    Ensures regime post (operation >>= rest) pairing state ↔
      Ensures regime (fun outcome pairing state =>
        match outcome with
        | .ok value => Ensures regime post (rest value) pairing state
        | .error failure => post (.error failure) pairing state) operation pairing state := by
  unfold Ensures
  rw [runOn_bind, Action.ensures_bind]
  constructor
  all_goals
    intro ensures
    refine Action.Ensures.mono ensures ?_
    rintro ⟨outcome, pairing⟩ state
    cases outcome <;> exact id

@[simp] theorem ensures_tryCatch (operation : Operation α) (rescue : Failure → Operation α) :
    Ensures regime post (tryCatch operation rescue) pairing state ↔
      Ensures regime (fun outcome pairing state =>
        match outcome with
        | .ok value => post (.ok value) pairing state
        | .error failure => Ensures regime post (rescue failure) pairing state) operation pairing state := by
  unfold Ensures
  rw [runOn_tryCatch, Action.ensures_bind]
  constructor
  all_goals
    intro ensures
    refine Action.Ensures.mono ensures ?_
    rintro ⟨outcome, pairing⟩ state
    cases outcome <;> exact id

@[simp] theorem ensures_get {post : Except Failure Pairing → Pairing → σ → Prop} :
    Ensures regime post (get : Operation Pairing) pairing state ↔ post (.ok pairing) pairing state := Iff.rfl

@[simp] theorem ensures_modify {post : Except Failure Unit → Pairing → σ → Prop} (change : Pairing → Pairing) :
    Ensures regime post (modify change : Operation Unit) pairing state ↔ post (.ok ()) (change pairing) state := Iff.rfl

theorem ensures_lift (action : Action α) :
    Ensures regime post (lift action) pairing state ↔
      action.Ensures regime (fun value => post (.ok value) pairing) state := by
  unfold Ensures
  rw [runOn_lift, Action.ensures_bind]
  rfl

@[simp] theorem ensures_note {post : Except Failure Unit → Pairing → σ → Prop} (level : Log.Level)
    (channel : Log.Channel) (message : String) :
    Ensures regime post (lift (Action.note level channel message)) pairing state ↔ post (.ok ()) pairing state :=
  ensures_lift _

@[simp] theorem ensures_clock {post : Except Failure Timestamp → Pairing → σ → Prop} :
    Ensures regime post (lift Action.clock) pairing state ↔ ∀ now, post (.ok now) pairing state :=
  ensures_lift _

theorem ensures_ask {request : StoreRequest} {post : Except Failure request.Answer → Pairing → σ → Prop} :
    Ensures regime post (ask request) pairing state ↔
      ∀ met, regime.drift state met → ∀ answer left, regime.answers request met answer left →
        regime.keeps met left ∧ post answer pairing left := Iff.rfl

@[simp] theorem ensures_map {post : Except Failure β → Pairing → σ → Prop} (f : α → β) (operation : Operation α) :
    Ensures regime post (f <$> operation) pairing state ↔
      Ensures regime (fun outcome => post (outcome.map f)) operation pairing state := by
  rw [map_eq_pure_bind, ensures_bind]
  constructor
  all_goals
    intro ensures
    refine Ensures.mono ensures ?_
    intro outcome pairing state
    cases outcome <;> exact id

@[simp] theorem ensures_discard {post : Except Failure Unit → Pairing → σ → Prop} (operation : Operation α) :
    Ensures regime post (discard operation) pairing state ↔
      Ensures regime (fun outcome => post (outcome.map fun _ => ())) operation pairing state :=
  ensures_map (fun _ => ()) operation

@[simp] theorem ensures_notingFailure (message : String) (operation : Operation α) :
    Ensures regime post (notingFailure message operation) pairing state ↔
      Ensures regime post operation pairing state := by
  simp only [notingFailure, note, ensures_tryCatch, ensures_bind, ensures_note, ensures_throw]
  constructor
  all_goals
    intro ensures
    refine Ensures.mono ensures ?_
    intro outcome pairing state
    cases outcome <;> exact id

end ClaimOperator.Operation

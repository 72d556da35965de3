import ClaimOperator.Proofs.Logic.Alone

/-! How one run of an operation ends: with an outcome, a pair and a state.

A rule about every run cannot say which of two requests in a row was made to fail.
The run over one handler can, and it is composed of the runs of its parts.
-/

set_option autoImplicit false

namespace ClaimOperator

structure Execution (σ α : Type) where
  outcome : Except Failure α
  pairing : Pairing
  state : σ

namespace Execution

variable {σ α β : Type}

/-- Go on after a success; a failure is kept with what it left. -/
def follow (execution : Execution σ α) (next : α → Pairing → σ → Execution σ β) : Execution σ β :=
  match execution.outcome with
  | .ok value => next value execution.pairing execution.state
  | .error failure => ⟨.error failure, execution.pairing, execution.state⟩

/-- Go on after a failure; a success is kept. -/
def rescue (execution : Execution σ α) (next : Failure → Pairing → σ → Execution σ α) : Execution σ α :=
  match execution.outcome with
  | .ok value => ⟨.ok value, execution.pairing, execution.state⟩
  | .error failure => next failure execution.pairing execution.state

@[simp] theorem follow_ok (value : α) (pairing : Pairing) (state : σ) (next : α → Pairing → σ → Execution σ β) :
    (Execution.mk (.ok value) pairing state).follow next = next value pairing state := rfl

@[simp] theorem follow_error (failure : Failure) (pairing : Pairing) (state : σ)
    (next : α → Pairing → σ → Execution σ β) :
    (Execution.mk (.error failure) pairing state).follow next = ⟨.error failure, pairing, state⟩ := rfl

@[simp] theorem rescue_ok (value : α) (pairing : Pairing) (state : σ) (next : Failure → Pairing → σ → Execution σ α) :
    (Execution.mk (.ok value) pairing state).rescue next = ⟨.ok value, pairing, state⟩ := rfl

@[simp] theorem rescue_error (failure : Failure) (pairing : Pairing) (state : σ)
    (next : Failure → Pairing → σ → Execution σ α) :
    (Execution.mk (.error failure) pairing state).rescue next = next failure pairing state := rfl

end Execution

namespace Operation

variable {σ α β : Type}

def execute (operation : Operation α) (handle : Handler σ) (pairing : Pairing) (state : σ) : Execution σ α :=
  let ((outcome, left), after) := (operation.runOn pairing).run handle state
  ⟨outcome, left, after⟩

variable {handle : Handler σ} {pairing : Pairing} {state : σ}

@[simp] theorem execute_pure (value : α) :
    (pure value : Operation α).execute handle pairing state = ⟨.ok value, pairing, state⟩ := rfl

@[simp] theorem execute_throw (failure : Failure) :
    (throw failure : Operation α).execute handle pairing state = ⟨.error failure, pairing, state⟩ := rfl

@[simp] theorem execute_bind (operation : Operation α) (rest : α → Operation β) :
    (operation >>= rest).execute handle pairing state =
      (operation.execute handle pairing state).follow fun value => (rest value).execute handle := by
  unfold execute
  rw [runOn_bind, Action.run_bind]
  obtain ⟨⟨outcome, left⟩, after⟩ := (operation.runOn pairing).run handle state
  cases outcome <;> rfl

@[simp] theorem execute_tryCatch (operation : Operation α) (handler : Failure → Operation α) :
    (tryCatch operation handler : Operation α).execute handle pairing state =
      (operation.execute handle pairing state).rescue fun failure => (handler failure).execute handle := by
  unfold execute
  rw [runOn_tryCatch, Action.run_bind]
  obtain ⟨⟨outcome, left⟩, after⟩ := (operation.runOn pairing).run handle state
  cases outcome <;> rfl

@[simp] theorem execute_get :
    (get : Operation Pairing).execute handle pairing state = ⟨.ok pairing, pairing, state⟩ := rfl

@[simp] theorem execute_modify (change : Pairing → Pairing) :
    (modify change : Operation Unit).execute handle pairing state = ⟨.ok (), change pairing, state⟩ := rfl

theorem execute_lift (action : Action α) :
    (lift action : Operation α).execute handle pairing state =
      ⟨.ok (action.run handle state).1, pairing, (action.run handle state).2⟩ := by
  unfold execute
  rw [runOn_lift, Action.run_bind]
  rfl

@[simp] theorem execute_note (level : Log.Level) (channel : Log.Channel) (message : String) :
    (lift (Action.note level channel message)).execute handle pairing state =
      ⟨.ok (), pairing, (handle (.note ⟨level, channel, message⟩) state).2⟩ := execute_lift _

@[simp] theorem execute_clock :
    (lift Action.clock).execute handle pairing state =
      ⟨.ok (handle .clock state).1, pairing, (handle .clock state).2⟩ := execute_lift _

@[simp] theorem execute_ask (request : StoreRequest) :
    (ask request).execute handle pairing state =
      ⟨(handle (.ask request) state).1, pairing, (handle (.ask request) state).2⟩ := rfl

@[simp] theorem execute_discard (operation : Operation α) :
    (discard operation).execute handle pairing state =
      (operation.execute handle pairing state).follow fun _ pairing state => ⟨.ok (), pairing, state⟩ := by
  have bound : discard operation = operation >>= fun _ => pure () := map_eq_pure_bind _ operation
  rw [bound, execute_bind]
  rfl

/-- Under a plan of failures, a run of an operation ends with what the operation ensures. -/
theorem Ensures.execute {τ : Type} [LocalStore τ] {injected : StoreError → Prop} {keeps : Contents → Prop}
    {post : Except Failure α → Pairing → Contents → Prop} {operation : Operation α} {state : Logged (Scheduled τ)}
    (ensures : operation.Ensures (.alone injected keeps) post pairing (LocalStore.contents state.store.store))
    (quiet : LocalStore.Quiet state.store.store) (injects : Action.Injects injected state.store.plan)
    (now : Timestamp) :
    let last := operation.execute (Action.scheduledHandler now) pairing state
    LocalStore.Quiet last.state.store.store ∧
      post last.outcome last.pairing (LocalStore.contents last.state.store.store) :=
  Action.Ensures.run ensures quiet injects now

end Operation

end ClaimOperator

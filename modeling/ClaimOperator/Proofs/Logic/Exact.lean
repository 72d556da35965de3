import ClaimOperator.Proofs.Logic.Operations

/-! A service with no other client and no failure, to the letter.

Every request is answered as the service answers it then and there, so what an action
ensures under this regime is said of the very state that it leaves.
-/

set_option autoImplicit false

namespace ClaimOperator

variable {σ α : Type} {serve : Service σ} {now : Timestamp}

def Regime.exact (serve : Service σ) (now : Timestamp) : Regime σ where
  answers request met answer left := (answer, left) = serve request now met
  drift := Eq
  keeps _ _ := True

theorem Action.ensures_ask_exact (request : StoreRequest) {post : Except Failure request.Answer → σ → Prop} {state : σ} :
    (Action.ask request).Ensures (.exact serve now) post state ↔
      post (serve request now state).1 (serve request now state).2 := by
  rw [Action.ensures_ask]
  constructor
  · intro ensures
    exact (ensures state rfl _ _ rfl).2
  · rintro served met rfl answer left same
    have answered : (answer, left) = serve request now state := same
    rw [← answered] at served
    exact ⟨trivial, served⟩

theorem Operation.ensures_ask_exact (request : StoreRequest)
    {post : Except Failure request.Answer → Pairing → σ → Prop} {pairing : Pairing} {state : σ} :
    Operation.Ensures (.exact serve now) post (.ask request) pairing state ↔
      post (serve request now state).1 pairing (serve request now state).2 :=
  Operation.ensures_ask.trans (Action.ensures_ask.symm.trans (Action.ensures_ask_exact request))

theorem Action.Ensures.run_exact {post : α → σ → Prop} {action : Action α} {state : σ}
    (ensures : action.Ensures (.exact serve now) post state) (log : List Log.Entry) :
    post (action.run (serve.handler now) ⟨state, log⟩).1 (action.run (serve.handler now) ⟨state, log⟩).2.store := by
  induction action generalizing state log with
  | done value => exact ensures
  | perform effect next ih =>
    cases effect with
    | ask request => exact ih _ (ensures state rfl _ _ rfl).2 log
    | clock => exact ih now (ensures now) log
    | note entry => exact ih () ensures (log ++ [entry])

end ClaimOperator

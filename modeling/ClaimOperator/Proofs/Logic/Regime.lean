import ClaimOperator.Store.Service

/-! What an action ensures, whatever it meets.

A regime says how requests may be answered over some state, what others may do to the
state between two effects, and what every request must leave true. An action ensures
a postcondition if it holds after every run under the regime, and every request on the
way kept what it must. The clock may show any time, and notes change nothing.
-/

set_option autoImplicit false

namespace ClaimOperator

structure Regime (σ : Type) where
  answers : (request : StoreRequest) → (met : σ) → Except Failure request.Answer → (left : σ) → Prop
  drift : σ → σ → Prop
  keeps : σ → σ → Prop

namespace Action

variable {σ α β : Type}

def Ensures (regime : Regime σ) (post : α → σ → Prop) : Action α → σ → Prop
  | done value, state => post value state
  | perform (.ask request) next, state =>
    -- Others act between two requests, so a request may meet another state than the last one left.
    ∀ met, regime.drift state met → ∀ answer left, regime.answers request met answer left →
      regime.keeps met left ∧ (next answer).Ensures regime post left
  | perform .clock next, state => ∀ now, (next now).Ensures regime post state
  | perform (.note _) next, state => (next ()).Ensures regime post state

variable {regime : Regime σ} {post : α → σ → Prop}

theorem ensures_bind {post : β → σ → Prop} (action : Action α) (rest : α → Action β) (state : σ) :
    (action >>= rest).Ensures regime post state ↔
      action.Ensures regime (fun value => (rest value).Ensures regime post) state := by
  induction action generalizing state with
  | done value => rfl
  | perform effect next ih =>
    cases effect with
    | ask request =>
      constructor
      · intro ensures met drifted answer left answered
        exact ⟨(ensures met drifted answer left answered).1,
          (ih answer left).mp (ensures met drifted answer left answered).2⟩
      · intro ensures met drifted answer left answered
        exact ⟨(ensures met drifted answer left answered).1,
          (ih answer left).mpr (ensures met drifted answer left answered).2⟩
    | clock => exact forall_congr' fun now => ih now state
    | note entry => exact ih () state

theorem Ensures.mono {weaker : α → σ → Prop} {action : Action α} {state : σ}
    (ensures : action.Ensures regime post state) (weakens : ∀ value state, post value state → weaker value state) :
    action.Ensures regime weaker state := by
  induction action generalizing state with
  | done value => exact weakens value state ensures
  | perform effect next ih =>
    cases effect with
    | ask request =>
      intro met drifted answer left answered
      obtain ⟨kept, later⟩ := ensures met drifted answer left answered
      exact ⟨kept, ih answer later⟩
    | clock => exact fun now => ih now (ensures now)
    | note entry => exact ih () ensures

theorem ensures_ask {request : StoreRequest} {post : Except Failure request.Answer → σ → Prop} {state : σ} :
    (ask request).Ensures regime post state ↔
      ∀ met, regime.drift state met → ∀ answer left, regime.answers request met answer left →
        regime.keeps met left ∧ post answer left := Iff.rfl

/-- What is ensured stays so while others act, if nothing they do can spoil the postcondition. -/
theorem Ensures.drift (transitive : ∀ {first second third}, regime.drift first second →
      regime.drift second third → regime.drift first third)
    (stable : ∀ {value before after}, post value before → regime.drift before after → post value after)
    {action : Action α} {before after : σ} (ensures : action.Ensures regime post before)
    (drifted : regime.drift before after) : action.Ensures regime post after := by
  induction action with
  | done value => exact stable ensures drifted
  | perform effect next ih =>
    cases effect with
    -- A request counts on nothing but what others leave it, so it does not matter that they started earlier.
    | ask request => exact fun met later => ensures met (transitive drifted later)
    | clock => exact fun now => ih now (ensures now)
    | note entry => exact ih () ensures

end Action

end ClaimOperator

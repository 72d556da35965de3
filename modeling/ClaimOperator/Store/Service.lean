import ClaimOperator.Store.Action

/-! Services: how requests are answered over the state of a store.

The time of day is handed in with each request. A service becomes a handler of
all effects once a clock and a log stand beside it.
-/

set_option autoImplicit false

namespace ClaimOperator

abbrev Service (σ : Type) :=
  (request : StoreRequest) → Timestamp → σ → Except Failure request.Answer × σ

structure Logged (σ : Type) where
  store : σ
  log : List Log.Entry := []

namespace Logged

variable {σ : Type}

def note (entry : Log.Entry) (state : Logged σ) : Logged σ := { state with log := state.log ++ [entry] }

end Logged

namespace Service

variable {σ : Type}

def handler (serve : Service σ) (now : Timestamp) : Handler (Logged σ)
  | .ask request, state =>
    let (answer, store) := serve request now state.store
    (answer, { state with store := store })
  | .clock, state => (now, state)
  | .note entry, state => ((), state.note entry)

end Service

end ClaimOperator

import ClaimOperator.Proofs.Logic.Invariants
import ClaimOperator.Proofs.Store.Locality

/-! Actions that ask for a few titles only.

Nothing is known of the answers to such an action but that a read gives an object of the key that was asked
for. Over a table of rows it then depends on the entries under its titles, and changes no others: its run is
the same over any two tables that agree there.
-/

set_option autoImplicit false

namespace ClaimOperator

def StoreRequest.Keyed : (request : StoreRequest) → Except Failure request.Answer → Prop
  | get _ key, .ok object => object.key = key
  | _, _ => True

/-- The state is the title that was asked for last. -/
def Regime.within (titles : Set (Kind × ObjectKey)) : Regime (Kind × ObjectKey) where
  answers request _ answer left := request.Keyed answer ∧ left = request.title
  drift := Eq
  keeps _ left := left ∈ titles

namespace Operation

variable {α β : Type} {titles : Set (Kind × ObjectKey)} {invariant : Pairing → Prop} {pairing : Pairing}
  {last : Kind × ObjectKey}

/-- An invariant of the pair alone is kept, whatever the answers. -/
abbrev Stays (titles : Set (Kind × ObjectKey)) (invariant : Pairing → Prop) (operation : Operation α) : Prop :=
  Keeps (.within titles) (fun pairing _ => invariant pairing) operation

theorem ensures_ask_within (request : StoreRequest)
    {post : Except Failure request.Answer → Pairing → Kind × ObjectKey → Prop} (member : request.title ∈ titles)
    (ends : ∀ answer, request.Keyed answer → post answer pairing request.title) :
    (ask request).Ensures (.within titles) post pairing last := by
  refine ensures_ask.mpr fun met _ answer left answered => ?_
  obtain ⟨keyed, rfl⟩ := answered
  exact ⟨member, ends answer keyed⟩

theorem Keeps.ask {request : StoreRequest} (member : request.title ∈ titles) :
    Stays titles invariant (Operation.ask request) :=
  fun _ _ before => ensures_ask_within request member fun _ _ => before

theorem Keeps.bind_get {rest : Pairing → Operation β}
    (next : ∀ pairing, invariant pairing → Stays titles invariant (rest pairing)) :
    Stays titles invariant (MonadState.get >>= rest) :=
  fun pairing last before => (ensures_bind _ _).mpr (next pairing before pairing last before)

theorem Keeps.bind_currentClaim {rest : Claim → Operation β}
    (next : ∀ pairing, invariant pairing → Stays titles invariant (rest pairing.claim)) :
    Stays titles invariant (Pairing.currentClaim >>= rest) :=
  fun pairing last before => (ensures_bind _ _).mpr (next pairing before pairing last before)

end Operation

namespace Action

open Contents (Agree)

variable {α : Type} {titles : Set (Kind × ObjectKey)} {post : α → Kind × ObjectKey → Prop} {action : Action α}
  {last : Kind × ObjectKey} {first second : Rows.Connection}

theorem run_ask {σ : Type} (serve : Service σ) (now : Timestamp) (request : StoreRequest)
    (next : Except Failure request.Answer → Action α) (state : σ) (log : List Log.Entry) :
    (perform (.ask request) next).run (serve.handler now) ⟨state, log⟩ =
      (next (serve request now state).1).run (serve.handler now) ⟨(serve request now state).2, log⟩ := rfl

theorem keyed_answer (quiet : first.Quiet) (request : StoreRequest) (now : Timestamp) :
    request.Keyed (LocalStore.serve request now first).1 := by
  cases request with
  | get kind key =>
    cases found : LocalStore.contents first kind key with
    | none =>
      rw [Counting.answer_get_of_absent quiet found]
      trivial
    | some object =>
      rw [Counting.answer_get_of_found quiet found]
      exact LocalStore.keyed quiet kind key object found
  | _ => trivial

/-- The value and what is left under the titles depend on what was there. -/
theorem Ensures.run_agree (ensures : action.Ensures (.within titles) post last) (quiet : first.Quiet)
    (quiet' : second.Quiet) (agree : Agree titles (LocalStore.contents first) (LocalStore.contents second))
    (now : Timestamp) (log log' : List Log.Entry) :
    let left := action.run (Service.handler LocalStore.serve now) ⟨first, log⟩
    let left' := action.run (Service.handler LocalStore.serve now) ⟨second, log'⟩
    left.1 = left'.1 ∧ Agree titles (LocalStore.contents left.2.store) (LocalStore.contents left'.2.store) := by
  -- As long as the tables agree both runs get the same answers, so they stay on one branch of the tree.
  induction action generalizing first second last log log' with
  | done value => exact ⟨rfl, agree⟩
  | perform effect next ih =>
    cases effect with
    | ask request =>
      obtain ⟨member, later⟩ := ensures last rfl _ _ ⟨keyed_answer quiet request now, rfl⟩
      obtain ⟨answer, left⟩ := quiet.serve_agree quiet' now member agree
      rw [run_ask, run_ask, ← answer]
      exact ih _ later (quiet.serve request now).1 (quiet'.serve request now).1 left log log'
    | clock => exact ih now (ensures now) quiet quiet' agree log log'
    | note entry => exact ih () ensures quiet quiet' agree (log ++ [entry]) (log' ++ [entry])

theorem Ensures.run_elsewhere (ensures : action.Ensures (.within titles) post last) (quiet : first.Quiet)
    (now : Timestamp) (log : List Log.Entry) :
    let left := action.run (Service.handler LocalStore.serve now) ⟨first, log⟩
    left.2.store.Quiet ∧ Agree titlesᶜ (LocalStore.contents first) (LocalStore.contents left.2.store) := by
  induction action generalizing first last log with
  | done value => exact ⟨quiet, .refl _ _⟩
  | perform effect next ih =>
    cases effect with
    | ask request =>
      obtain ⟨member, later⟩ := ensures last rfl _ _ ⟨keyed_answer quiet request now, rfl⟩
      obtain ⟨quieter, rest⟩ := ih _ later (quiet.serve request now).1 log
      exact ⟨quieter, (quiet.serve_elsewhere now member).trans rest⟩
    | clock => exact ih now (ensures now) quiet log
    | note entry => exact ih () ensures quiet (log ++ [entry])

end Action

end ClaimOperator

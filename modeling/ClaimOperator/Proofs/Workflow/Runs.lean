import ClaimOperator.Proofs.Logic.Alone
import ClaimOperator.Workflow

/-! Units of work on a local store, one after the other.

A unit of work may find some of its requests failing, as planned, and its writes may be
taken back at the end.
-/

set_option autoImplicit false

namespace ClaimOperator

namespace LocalStore

variable {σ α : Type} [LocalStore σ]

def work (plan : List (Option StoreError)) (now : Timestamp) (action : Action (Verdict α)) (store : σ) :
    Except Failure α × σ :=
  let (outcome, session) := Session.transact (Service.scheduled serve) now action { store := ⟨store, plan⟩ }
  (outcome, session.store.store)

def during (plan : List (Option StoreError)) (now : Timestamp) (action : Action (Verdict α)) (effects : Nat)
    (store : σ) : σ :=
  let opened : Scheduled σ := Transactional.opened ⟨store, plan⟩
  (action.advance (Action.scheduledHandler now) effects ⟨opened, []⟩).2.store.store

variable {injected : StoreError → Prop} {keeps : Contents → Prop} {post : Verdict α → Contents → Prop}
  {plan : List (Option StoreError)} {action : Action (Verdict α)} {store : σ}

theorem opened_scheduled (store : σ) (plan : List (Option StoreError)) :
    (Transactional.opened ⟨store, plan⟩ : Scheduled σ) = ⟨store, plan⟩ :=
  congrArg (Scheduled.mk · plan) (LocalStore.opens store)

/-- A unit of work ends with a verdict, and leaves what it wrote, or if it was taken back perhaps what was
there before. -/
theorem work_ensures (ensures : action.Ensures (.alone injected keeps) post (contents store)) (quiet : Quiet store)
    (injects : Action.Injects injected plan) (now : Timestamp) :
    Quiet (work plan now action store).2 ∧ ∃ verdict left, post verdict left ∧
      (work plan now action store).1 = verdict.outcome ∧
      (contents (work plan now action store).2 = left ∨
        verdict.commits = false ∧ contents (work plan now action store).2 = contents store) := by
  let start : Logged (Scheduled σ) := ⟨⟨store, plan⟩, []⟩
  have ran : Quiet (action.run (Action.scheduledHandler now) start).2.store.store ∧ post _ _ :=
    Action.Ensures.run (ensures : action.Ensures _ _ (contents start.store.store)) quiet injects now
  simp only [work, Session.transact, opened_scheduled]
  generalize action.run (Action.scheduledHandler now) start = result at ran
  obtain ⟨⟨outcome, commits⟩, after⟩ := result
  cases commits with
  | true => exact ⟨ran.1, _, _, ran.2, rfl, .inl rfl⟩
  | false =>
    obtain ⟨quiet', same | same⟩ := LocalStore.rollsBack quiet ran.1
    · exact ⟨quiet', _, _, ran.2, rfl, .inr ⟨rfl, same⟩⟩
    · exact ⟨quiet', _, _, ran.2, rfl, .inl same⟩

/-- When only what has written nothing is taken back, the store is left as the action leaves it. -/
theorem work_kept (ensures : action.Ensures (.alone injected keeps) post (contents store)) (quiet : Quiet store)
    (injects : Action.Injects injected plan) (now : Timestamp)
    (idle : ∀ verdict left, post verdict left → verdict.commits = false → left = contents store) :
    ∃ verdict, post verdict (contents (work plan now action store).2) ∧
      (work plan now action store).1 = verdict.outcome := by
  obtain ⟨_, verdict, left, ended, outcome, same | ⟨discarded, same⟩⟩ := work_ensures ensures quiet injects now
  · exact ⟨verdict, same ▸ ended, outcome⟩
  · rw [← idle verdict left ended discarded] at same
    exact ⟨verdict, same ▸ ended, outcome⟩

theorem keeps_during (ensures : action.Ensures (.alone injected keeps) post (contents store))
    (kept : keeps (contents store)) (quiet : Quiet store) (injects : Action.Injects injected plan) (now : Timestamp)
    (effects : Nat) : keeps (contents (during plan now action effects store)) := by
  simp only [during, opened_scheduled]
  exact ensures.keeps_advance kept quiet injects now effects

section Preserved

variable {preserved : σ → Prop}
  (serves : ∀ request now store, preserved store → preserved (serve request now store).2)

include serves

theorem scheduled_preserves (request : StoreRequest) (now : Timestamp) {state : Scheduled σ}
    (kept : preserved state.store) : preserved (Service.scheduled serve request now state).2.store := by
  obtain ⟨store, plan⟩ := state
  unfold Service.scheduled
  match plan with
  | some _ :: _ => exact kept
  | none :: _ => exact serves request now store kept
  | [] => exact serves request now store kept

theorem run_preserves {β : Type} (now : Timestamp) (action : Action β) {state : Logged (Scheduled σ)}
    (kept : preserved state.store.store) :
    preserved (action.run (Action.scheduledHandler now) state).2.store.store := by
  induction action generalizing state with
  | done value => exact kept
  | perform effect next ih =>
    cases effect with
    | ask request => exact ih _ (scheduled_preserves serves request now kept)
    | clock => exact ih _ kept
    | note entry => exact ih _ kept

theorem work_preserves
    (rollsBack : ∀ before after, preserved before → preserved after →
      preserved (Transactional.rolledBack before after))
    (plan : List (Option StoreError)) (now : Timestamp) (action : Action (Verdict α)) (kept : preserved store) :
    preserved (work plan now action store).2 := by
  let start : Logged (Scheduled σ) := ⟨⟨store, plan⟩, []⟩
  have ran : preserved (action.run (Action.scheduledHandler now) start).2.store.store :=
    run_preserves serves now action kept
  simp only [work, Session.transact, opened_scheduled]
  split
  · exact ran
  · exact rollsBack _ _ kept ran

end Preserved

end LocalStore

end ClaimOperator

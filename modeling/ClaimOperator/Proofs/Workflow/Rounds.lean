import ClaimOperator.Proofs.Logic.Exact
import ClaimOperator.Proofs.Workflow.OwnReferences

/-! Passes over one claim, one after the other, with no other writer.

The passes may start from any store that requests lead to. Within `Workflow.settle` they are
units of work of one session; what the session has logged and committed before does not
matter to them.
-/

set_option autoImplicit false

namespace ClaimOperator

namespace LocalStore

variable {σ : Type} [LocalStore σ]

inductive Reached : σ → Prop where
  | empty : Reached empty
  | served {store : σ} (request : StoreRequest) (now : Timestamp) : Reached store →
    Reached (serve request now store).2

theorem Reached.quiet {store : σ} (reached : Reached store) : Quiet store := by
  induction reached with
  | empty => exact quiet_empty
  | served request now _ ih => exact (serves ih request now).1

def passes (space : String) (key : ObjectKey) (times : List Timestamp) (store : σ) : σ :=
  times.foldl (fun store now => (pass space key now store).2) store

@[simp] theorem passes_cons (space : String) (key : ObjectKey) (now : Timestamp) (times : List Timestamp) (store : σ) :
    passes space key (now :: times) store = passes space key times (pass space key now store).2 := rfl

theorem passes_of_idle {space : String} {key : ObjectKey} {store : σ} (idle : ∀ now, (pass space key now store).2 = store)
    (times : List Timestamp) : passes space key times store = store := by
  induction times with
  | nil => rfl
  | cons now times ih => rw [passes_cons, idle, ih]

theorem run_unplanned {α : Type} (now : Timestamp) (action : Action α) (store : σ) (log log' : List Log.Entry) :
    let planned := action.run (Action.scheduledHandler now) ⟨⟨store, []⟩, log⟩
    let plain := action.run (Service.handler serve now) ⟨store, log'⟩
    planned.1 = plain.1 ∧ planned.2.store = ⟨plain.2.store, []⟩ := by
  induction action generalizing store log log' with
  | done value => exact ⟨rfl, rfl⟩
  | perform effect next ih =>
    cases effect with
    | ask request => exact ih _ _ _ _
    | clock => exact ih _ _ _ _
    | note entry => exact ih _ _ _ _

theorem transact_eq_work {α : Type} (now : Timestamp) (action : Action (Verdict α)) (session : Session σ) :
    (session.transact serve now action).1 = (work [] now action session.store).1 ∧
      (session.transact serve now action).2.store = (work [] now action session.store).2 := by
  obtain ⟨value, after⟩ := run_unplanned now action session.store [] session.log
  simp only [work, Session.transact, opened_scheduled, LocalStore.opens, value]
  split
  · exact ⟨rfl, (congrArg Scheduled.store after).symm⟩
  · exact ⟨rfl, by rw [after]; rfl⟩

section Settling

variable {space : String} {key : ObjectKey} {now : Timestamp} {session : Session σ} {result : PassResult}

theorem transact_reconcile (passed : (pass space key now session.store).1 = .ok (some result)) :
    ∃ after : Session σ, after.store = (pass space key now session.store).2 ∧
      session.transact serve now (Workflow.reconcile space key) = (.ok (some result), after) := by
  obtain ⟨outcome, store⟩ := transact_eq_work now (Workflow.reconcile space key) session
  exact ⟨_, store, Prod.ext (outcome.trans passed) rfl⟩

theorem settleFrom_of_rest (passed : (pass space key now session.store).1 = .ok (some result))
    (rests : result.requeue = false) (done : Nat) (last : Option PassResult) (remaining : Nat) :
    ∃ after : Session σ, after.store = (pass space key now session.store).2 ∧
      Workflow.settleFrom serve now space key done last (remaining + 1) session = (.ok (some result), after) := by
  obtain ⟨after, store, transacted⟩ := transact_reconcile passed
  refine ⟨after, store, ?_⟩
  simp only [Workflow.settleFrom, transacted, rests, Bool.false_eq_true, ↓reduceIte]

theorem settleFrom_of_requeue (passed : (pass space key now session.store).1 = .ok (some result))
    (requeues : result.requeue = true) (done : Nat) (last : Option PassResult) (remaining : Nat) :
    ∃ after : Session σ, after.store = (pass space key now session.store).2 ∧
      Workflow.settleFrom serve now space key done last (remaining + 1) session =
        Workflow.settleFrom serve now space key (done + 1) (some result) remaining after := by
  obtain ⟨after, store, transacted⟩ := transact_reconcile passed
  refine ⟨_, ?_, by simp only [Workflow.settleFrom, transacted, requeues, ↓reduceIte]; rfl⟩
  exact store

end Settling

def journal {α : Type} (now : Timestamp) (action : Action (Verdict α)) (store : σ) : Except Failure α × Journaled σ :=
  let (outcome, session) := Session.transact (Service.journaled serve) now action { store := ⟨store, []⟩ }
  (outcome, session.store)

theorem run_journaled {α : Type} (now : Timestamp) (action : Action α) (store : σ) (calls : List JournalEntry)
    (log : List Log.Entry) :
    let journaled := action.run (Service.handler (Service.journaled serve) now) ⟨⟨store, calls⟩, log⟩
    let plain := action.run (Service.handler serve now) ⟨store, log⟩
    journaled.1 = plain.1 ∧ journaled.2.store.store = plain.2.store := by
  induction action generalizing store calls log with
  | done value => exact ⟨rfl, rfl⟩
  | perform effect next ih =>
    cases effect with
    | ask request => exact ih _ _ _ _
    | clock => exact ih _ _ _ _
    | note entry => exact ih _ _ _ _

/-- Keeping a journal changes nothing about the work. -/
theorem journal_eq_work {α : Type} (now : Timestamp) (action : Action (Verdict α)) (store : σ) :
    (journal now action store).1 = (work [] now action store).1 ∧
      (journal now action store).2.store = (work [] now action store).2 := by
  obtain ⟨outcome, after⟩ := transact_eq_work now action { store := store }
  rw [← outcome, ← after]
  have opened : (Transactional.opened ⟨store, []⟩ : Journaled σ) = ⟨store, []⟩ :=
    congrArg (Journaled.mk · []) (LocalStore.opens store)
  obtain ⟨value, left⟩ := run_journaled now action store [] []
  simp only [journal, Session.transact, opened, LocalStore.opens, value]
  split
  · exact ⟨rfl, left⟩
  · exact ⟨rfl, congrArg (Transactional.rolledBack store) left⟩

/-- What the action ensures to the letter, the unit of work leaves behind if it is kept. -/
theorem journal_exact {α : Type} {post : Verdict α → Journaled σ → Prop} {now : Timestamp}
    {action : Action (Verdict α)} {store : σ}
    (ensures : action.Ensures (.exact (Service.journaled serve) now) post ⟨store, []⟩)
    (commits : ∀ verdict left, post verdict left → verdict.commits = true) :
    ∃ verdict, post verdict (journal now action store).2 ∧ (journal now action store).1 = verdict.outcome := by
  have ran := ensures.run_exact []
  have kept := commits _ _ ran
  have opened : (Transactional.opened ⟨store, []⟩ : Journaled σ) = ⟨store, []⟩ :=
    congrArg (Journaled.mk · []) (LocalStore.opens store)
  simp only [journal, Session.transact, opened, kept, ↓reduceIte]
  exact ⟨_, ran, rfl⟩

end LocalStore

end ClaimOperator

import ClaimOperator.Workflow

/-! When the unit of work of a pass is kept.

The verdict is decided by the read of the claim and by how the pass over it ended, whatever
answers the requests.
-/

set_option autoImplicit false

namespace ClaimOperator.Workflow

def verdictOf : Except Failure PassResult → Verdict (Option PassResult)
  | .ok result => ⟨.ok (some result), true⟩
  | .error (.store error) => ⟨.error (.store error), true⟩
  | .error failure => ⟨.error failure, false⟩

def verdictUnread : Failure → Verdict (Option PassResult)
  | .store error => if error.category = .notFound then ⟨.ok none, false⟩ else ⟨.error (.store error), false⟩
  | failure => ⟨.error failure, false⟩

theorem not_commits_verdictUnread (failure : Failure) : (verdictUnread failure).commits = false := by
  cases failure with
  | store error =>
    simp only [verdictUnread]
    split <;> rfl
  | _ => rfl

theorem commits_verdictOf {outcome : Except Failure PassResult}
    (orderly : ∀ failure, outcome = .error failure → ∃ error, failure = .store error) :
    (verdictOf outcome).commits = true := by
  cases outcome with
  | ok result => rfl
  | error failure =>
    obtain ⟨error, rfl⟩ := orderly failure rfl
    rfl

section Runs

variable {σ : Type} {handle : Handler σ} {state : σ} {space : String} {key : ObjectKey}

theorem run_passVerdict (outcome : Except Failure PassResult) :
    ((passVerdict key outcome).run handle state).1 = verdictOf outcome := by
  cases outcome with
  | ok result => rfl
  | error failure => cases failure <;> rfl

theorem run_reconcile_of_read {claim : Claim} (read : (handle (.ask (.get .claim key)) state).1 = .ok claim) :
    ((reconcile space key).run handle state).1 =
      verdictOf ((Pass.run.runOn (.of claim space)).run handle (handle (.ask (.get .claim key)) state).2).1.1 := by
  unfold reconcile
  rw [Action.run_bind]
  simp only [Action.ask, Action.run, read, Action.run_bind]
  exact run_passVerdict _

theorem run_reconcile_of_unread {failure : Failure} (unread : (handle (.ask (.get .claim key)) state).1 = .error failure) :
    ((reconcile space key).run handle state).1 = verdictUnread failure := by
  unfold reconcile
  rw [Action.run_bind]
  simp only [Action.ask, Action.run, unread]
  cases failure with
  | store error =>
    by_cases missing : error.category = .notFound
    · simp only [verdictUnread, missing, ↓reduceIte]
      rfl
    · simp only [verdictUnread, missing, ↓reduceIte]
      rfl
  | _ => rfl

theorem store_reconcile_of_unread {serve : Service σ} {now : Timestamp} {state : Logged σ} {failure : Failure}
    (unread : (serve (.get .claim key) now state.store).1 = .error failure) :
    ((reconcile space key).run (serve.handler now) state).2.store = (serve (.get .claim key) now state.store).2 := by
  have read : (serve.handler now (.ask (.get .claim key)) state).1 = .error failure := unread
  unfold reconcile
  rw [Action.run_bind]
  simp only [Action.ask, Action.run, read]
  cases failure with
  | store error =>
    dsimp only
    split
    · rfl
    · rfl
  | _ => rfl

theorem commits_of_result {result : PassResult}
    (ended : ((reconcile space key).run handle state).1.outcome = .ok (some result)) :
    ((reconcile space key).run handle state).1.commits = true := by
  cases answer : (handle (.ask (.get .claim key)) state).1 with
  | ok claim =>
    rw [run_reconcile_of_read answer] at ended ⊢
    refine commits_verdictOf fun failure failed => ?_
    rw [failed] at ended
    cases failure <;> cases ended
  | error failure =>
    rw [run_reconcile_of_unread answer] at ended
    cases failure with
    | store error =>
      simp only [verdictUnread] at ended
      split at ended <;> cases ended
    | _ => cases ended

end Runs

end ClaimOperator.Workflow

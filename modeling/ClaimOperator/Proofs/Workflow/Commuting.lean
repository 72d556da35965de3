import ClaimOperator.Proofs.Reconcile.Confined
import ClaimOperator.Proofs.Workflow.Deletion

/-! Passes over claims that share no reference come to the same in either order.

Two units of work that ask for different titles cannot tell whether the other has run: each finds the entries
that it would have found, and leaves all others alone. What the table holds in the end is then the same, row
by row.
-/

set_option autoImplicit false

namespace ClaimOperator

namespace LocalStore

open Contents (Agree)

section Works

variable {α : Type} {titles : Set (Kind × ObjectKey)} {post : Verdict α → Kind × ObjectKey → Prop}
  {action : Action (Verdict α)} {last : Kind × ObjectKey} {first second connection : Rows.Connection}

/-- A unit of work is a run of its action, which is kept or not. -/
theorem work_eq (now : Timestamp) (action : Action (Verdict α)) (connection : Rows.Connection) :
    work [] now action connection =
      let left := action.run (Service.handler serve now) ⟨connection, []⟩
      (left.1.outcome,
        if left.1.commits then left.2.store else Transactional.rolledBack connection left.2.store) := by
  obtain ⟨outcome, store⟩ := transact_eq_work now action { store := connection }
  refine Prod.ext (outcome.symm.trans ?_) (store.symm.trans ?_)
  · simp only [Session.transact, opens]
    split <;> rfl
  · simp only [Session.transact, opens]
    split <;> rfl

theorem work_agree (ensures : action.Ensures (.within titles) post last) (quiet : first.Quiet)
    (quiet' : second.Quiet) (agree : Agree titles (contents first) (contents second)) (now : Timestamp) :
    (work [] now action first).1 = (work [] now action second).1 ∧
      Agree titles (contents (work [] now action first).2) (contents (work [] now action second).2) := by
  obtain ⟨value, left⟩ := ensures.run_agree quiet quiet' agree now [] []
  simp only [work_eq, value]
  split
  · exact ⟨trivial, left⟩
  · exact ⟨trivial, agree⟩

theorem work_elsewhere (ensures : action.Ensures (.within titles) post last) (quiet : connection.Quiet)
    (now : Timestamp) :
    (work [] now action connection).2.Quiet ∧
      Agree titlesᶜ (contents connection) (contents (work [] now action connection).2) := by
  obtain ⟨quieter, left⟩ := ensures.run_elsewhere quiet now []
  simp only [work_eq]
  split
  · exact ⟨quieter, left⟩
  · exact ⟨⟨quieter.race, quiet.rows⟩, .refl _ _⟩

end Works

/-- Two ways to go over a table that come to the same, whichever goes first: each has the outcome that it has
alone, and the rows are the same in the end, with their versions. A table has its rows in no order. -/
structure Commuting {α β : Type} (connection : Rows.Connection)
    (visit : Rows.Connection → Except Failure α × Rows.Connection)
    (visit' : Rows.Connection → Except Failure β × Rows.Connection) : Prop where
  outcome : (visit (visit' connection).2).1 = (visit connection).1
  outcome' : (visit' (visit connection).2).1 = (visit' connection).1
  rows : (visit' (visit connection).2).2.rows.Perm (visit (visit' connection).2).2.rows

theorem commuting_of_disjoint {α β : Type} {titles titles' : Set (Kind × ObjectKey)}
    {post : Verdict α → Kind × ObjectKey → Prop} {post' : Verdict β → Kind × ObjectKey → Prop}
    {action : Action (Verdict α)} {action' : Action (Verdict β)} {last last' : Kind × ObjectKey}
    {connection : Rows.Connection} (ensures : action.Ensures (.within titles) post last)
    (ensures' : action'.Ensures (.within titles') post' last') (apart : ∀ title ∈ titles, title ∉ titles')
    (quiet : connection.Quiet) (now now' : Timestamp) :
    Commuting connection (work [] now action) (work [] now' action') := by
  obtain ⟨alone, stays⟩ := work_elsewhere ensures quiet now
  obtain ⟨alone', stays'⟩ := work_elsewhere ensures' quiet now'
  obtain ⟨last, after⟩ := work_elsewhere ensures' alone now'
  obtain ⟨last', after'⟩ := work_elsewhere ensures alone' now
  have outside : titles ⊆ titles'ᶜ := apart
  have outside' : titles' ⊆ titlesᶜ := fun title member' member => apart title member member'
  -- Each finds under its titles what was there at the start, whether the other came before it or not.
  obtain ⟨outcome, left⟩ := work_agree ensures alone' quiet (stays'.mono outside).symm now
  obtain ⟨outcome', left'⟩ := work_agree ensures' alone quiet (stays.mono outside').symm now'
  refine ⟨outcome, outcome', last.rows.perm_of_contents last'.rows ?_⟩
  funext kind key
  by_cases member : (kind, key) ∈ titles
  · exact (after kind key (outside member)).symm.trans (left kind key member).symm
  · by_cases member' : (kind, key) ∈ titles'
    · exact (left' kind key member').trans (after' kind key (outside' member'))
    · calc contents _ kind key = contents _ kind key := (after kind key member').symm
        _ = contents connection kind key := (stays kind key member).symm
        _ = contents _ kind key := stays' kind key member'
        _ = contents _ kind key := after' kind key member

end LocalStore

theorem Pass.disjoint_titles {space : String} {first second : ObjectKey}
    (apart : first.referenceKey space ≠ second.referenceKey space) :
    ∀ title ∈ titles space first, title ∉ titles space second := by
  have keys : first ≠ second := fun same => apart (congrArg (ObjectKey.referenceKey · space) same)
  rintro title (rfl | rfl) (same | same)
  · exact keys (congrArg Prod.snd same)
  · cases congrArg Prod.fst same
  · cases congrArg Prod.fst same
  · exact apart (congrArg Prod.snd same)

/-- From any table that requests lead to, passes over two claims whose references have different keys commute,
whether the claims are there or not, whatever state they are in, and whatever the times are. -/
theorem reached_commutes {connection : Rows.Connection} (reached : LocalStore.Reached connection) (space : String)
    {first second : ObjectKey} (apart : first.referenceKey space ≠ second.referenceKey space)
    (now now' : Timestamp) :
    LocalStore.Commuting connection (LocalStore.pass space first now) (LocalStore.pass space second now') :=
  LocalStore.commuting_of_disjoint (Workflow.reconcile_within space first (.claim, first))
    (Workflow.reconcile_within space second (.claim, second)) (Pass.disjoint_titles apart) reached.quiet now now'

def neighbours : Rows.Connection :=
  let fresh := Workflow.newClaim ⟨"customer", "other-claim"⟩ default ""
  (LocalStore.serve (.create fresh) .epoch (partingStore Rows.Connection)).2

theorem commuting_neighbours :
    LocalStore.Reached neighbours ∧
    LocalStore.Commuting neighbours (LocalStore.pass defaultReferenceSpace ⟨"customer", "my-claim"⟩ .epoch)
      (LocalStore.pass defaultReferenceSpace ⟨"customer", "other-claim"⟩ .epoch) := by
  have reached : LocalStore.Reached neighbours := .served _ _ (.served _ _ (.served _ _ (.served _ _ .empty)))
  exact ⟨reached, reached_commutes reached defaultReferenceSpace (by decide) .epoch .epoch⟩

/-- Two claims whose references have one key, each with all that it needs but the reference. -/
def rivals : Rows.Connection :=
  let rival (key : ObjectKey) : Claim :=
    { metadata := { key := key, finalizers := [Finalizers.claimMarker] }
      spec := { legalEntity := default, referenceLink := key.referenceKey defaultReferenceSpace }
      status := { phase := some .pendingProject, conditions := some [] } }
  let one : Rows.Connection := (LocalStore.serve (.create (rival ⟨"a-b", "c"⟩)) .epoch LocalStore.empty).2
  (LocalStore.serve (.create (rival ⟨"a", "b-c"⟩)) .epoch one).2

/-- Whichever of them goes first gets the reference. -/
theorem not_commuting_rivals :
    ¬ LocalStore.Commuting rivals (LocalStore.pass defaultReferenceSpace ⟨"a-b", "c"⟩ .epoch)
      (LocalStore.pass defaultReferenceSpace ⟨"a", "b-c"⟩ .epoch) := by
  rintro ⟨-, -, rows⟩
  revert rows
  decide +kernel

end ClaimOperator

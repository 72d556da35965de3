import ClaimOperator.Proofs.Workflow.Pairs
import ClaimOperator.Proofs.Workflow.Runs

/-! No orphaned references, as long as units of work follow one another.

Claims are created and their deletion is requested, passes run over them with any of
their requests failing, and others delete references or change their finalizers. After
every unit of work, and at every point within one, each stored reference has its claim.
-/

set_option autoImplicit false

namespace ClaimOperator

/-- The units of work that make up a run, and which of their requests may be made to fail. -/
inductive Undertaking (space : String) : {α : Type} → Action (Verdict α) → List (Option StoreError) → Prop where
  | create (key : ObjectKey) (entity : LegalEntity) (region : String) :
    Undertaking space (Workflow.create key entity region) []
  | requestDeletion (key : ObjectKey) : Undertaking space (Workflow.requestDeletion key) []
  | reconcile (key : ObjectKey) (plan : List (Option StoreError)) :
    Action.Injects (fun error => error.category ≠ .notFound) plan →
    Undertaking space (Workflow.reconcile space key) plan
  | deleteReference (reference : Reference) : Undertaking space (External.deleteReference reference) []
  | editFinalizers (key : ObjectKey) (finalizers : List String) (version : Option String) :
    Undertaking space (External.editFinalizers key finalizers version) []

section Runs

variable {σ : Type} [LocalStore σ]

inductive Reachable (space : String) : σ → Prop where
  | empty : Reachable space LocalStore.empty
  | worked {α : Type} {work : Action (Verdict α)} {plan : List (Option StoreError)} {store : σ} (now : Timestamp) :
    Undertaking space work plan → Reachable space store → Reachable space (LocalStore.work plan now work store).2

/-- The stores that there are in a run, those within a unit of work included. -/
inductive Visited (space : String) : σ → Prop where
  | between {store : σ} : Reachable space store → Visited space store
  | during {α : Type} {work : Action (Verdict α)} {plan : List (Option StoreError)} {store : σ} (now : Timestamp)
    (effects : Nat) : Undertaking space work plan → Reachable space store →
    Visited space (LocalStore.during plan now work effects store)

end Runs

namespace Contents

variable {space : String} {contents : Contents}

/-- Every unit of work keeps the pairs, whatever of it fails. -/
theorem Paired.ensures {α : Type} {work : Action (Verdict α)} {plan : List (Option StoreError)}
    (paired : Paired space contents) (keyed : contents.Keyed) (undertaking : Undertaking space work plan) :
    work.Ensures (.alone (fun error => error.category ≠ .notFound) (Paired space)) (fun _ => Paired space) contents := by
  cases undertaking with
  | create key entity region =>
    refine ((Workflow.ensures_create key entity region).keeping fun _ => paired.creates).mono ?_
    exact fun _ _ ended => paired.creates ended.1
  | requestDeletion key =>
    refine ((Workflow.ensures_requestDeletion keyed key).keeping fun _ => paired.deletesClaim).mono ?_
    exact fun _ _ ended => paired.deletesClaim ended.1
  | deleteReference reference =>
    refine ((External.ensures_deleteReference reference).keeping fun _ => paired.deletesReference).mono ?_
    exact fun _ _ => paired.deletesReference
  | editFinalizers key finalizers version =>
    refine ((External.ensures_editFinalizers keyed key finalizers version).keeping fun _ => paired.edits).mono ?_
    exact fun _ _ => paired.edits
  | reconcile key plan _ =>
    refine ((Workflow.ensures_reconcile space key keyed fun _ => id).keeping fun _ => paired.leads keyed).mono ?_
    exact fun _ _ ended => paired.leads keyed ended.1.leads

end Contents

theorem Undertaking.injects {space : String} {α : Type} {work : Action (Verdict α)} {plan : List (Option StoreError)}
    (undertaking : Undertaking space work plan) : Action.Injects (fun error => error.category ≠ .notFound) plan := by
  cases undertaking with
  | reconcile key plan injects => exact injects
  | _ => exact nofun

section Runs

variable {σ : Type} [LocalStore σ] {space : String} {store : σ}

theorem Reachable.paired (reachable : Reachable space store) :
    LocalStore.Quiet store ∧ (LocalStore.contents store).Paired space := by
  induction reachable with
  | empty =>
    rw [LocalStore.contents_empty]
    exact ⟨LocalStore.quiet_empty, Contents.paired_empty space⟩
  | worked now undertaking _ ih =>
    obtain ⟨quiet, paired⟩ := ih
    have ensures := paired.ensures (LocalStore.keyed quiet) undertaking
    -- What is taken back leaves the pairs as they were before the unit of work.
    obtain ⟨quiet', _, left, paired', _, same | ⟨_, same⟩⟩ :=
      LocalStore.work_ensures ensures quiet undertaking.injects now
    · exact ⟨quiet', same ▸ paired'⟩
    · exact ⟨quiet', same ▸ paired⟩

theorem Visited.paired (visited : Visited space store) : (LocalStore.contents store).Paired space := by
  cases visited with
  | between reachable => exact reachable.paired.2
  | during now effects undertaking reachable =>
    obtain ⟨quiet, paired⟩ := reachable.paired
    have ensures := paired.ensures (LocalStore.keyed quiet) undertaking
    exact LocalStore.keeps_during ensures paired quiet undertaking.injects now effects

end Runs

/-- No run leaves an orphan, in memory or in a table of rows, not even within a unit of work. -/
theorem visited_noOrphans (space : String) :
    (∀ store : Tables, Visited space store → Contents.NoOrphans store.find?) ∧
      ∀ connection : Rows.Connection, Visited space connection → (Rows.contents connection.rows).NoOrphans :=
  ⟨fun _ visited => visited.paired.noOrphans, fun _ visited => visited.paired.noOrphans⟩

def provisioned (σ : Type) [LocalStore σ] : σ :=
  let key : ObjectKey := ⟨"customer", "my-claim"⟩
  let pass := fun (plan : List (Option StoreError)) (store : σ) =>
    (LocalStore.work plan .epoch (Workflow.reconcile defaultReferenceSpace key) store).2
  let created : σ := (LocalStore.work [] .epoch (Workflow.create key default "us-east1") LocalStore.empty).2
  pass [] (pass [] (pass [] (pass [none, some (.injected .conflict "busy")] (pass [] created))))

theorem visited_provisioned (σ : Type) [LocalStore σ] : Visited defaultReferenceSpace (provisioned σ) := by
  have pass : ∀ (plan : List (Option StoreError)) (store : σ),
      Action.Injects (fun error => error.category ≠ .notFound) plan → Reachable defaultReferenceSpace store →
      Reachable defaultReferenceSpace
        (LocalStore.work plan .epoch (Workflow.reconcile defaultReferenceSpace ⟨"customer", "my-claim"⟩) store).2 :=
    fun plan _ injects => .worked .epoch (.reconcile _ plan injects)
  have busy : Action.Injects (fun error => error.category ≠ .notFound) [none, some (.injected .conflict "busy")] := by
    intro error member
    simp only [List.mem_cons, Option.some.injEq, reduceCtorEq, List.not_mem_nil, or_false, false_or] at member
    rw [member]
    decide
  refine .between (pass _ _ nofun (pass _ _ nofun (pass _ _ nofun (pass _ _ busy (pass _ _ nofun ?_)))))
  exact .worked .epoch (.create _ _ _) .empty

/-- In such a run there is a reference, and its claim backs it. -/
theorem backs_provisioned :
    (∃ reference, (provisioned Tables).find? .reference ⟨defaultReferenceSpace, "customer-my-claim"⟩ =
        some reference ∧ Contents.Backs (provisioned Tables).find? ⟨defaultReferenceSpace, "customer-my-claim"⟩
          reference.spec.claimLink) ∧
      ∃ reference, Rows.contents (provisioned Rows.Connection).rows .reference
          ⟨defaultReferenceSpace, "customer-my-claim"⟩ = some reference ∧
        Contents.Backs (Rows.contents (provisioned Rows.Connection).rows)
          ⟨defaultReferenceSpace, "customer-my-claim"⟩ reference.spec.claimLink := by
  have inMemory : ((provisioned Tables).find? .reference
      ⟨defaultReferenceSpace, "customer-my-claim"⟩).isSome = true := by decide +kernel
  have inRows : (Rows.contents (provisioned Rows.Connection).rows .reference
      ⟨defaultReferenceSpace, "customer-my-claim"⟩).isSome = true := by decide +kernel
  obtain ⟨reference, found⟩ := Option.isSome_iff_exists.mp inMemory
  obtain ⟨reference', found'⟩ := Option.isSome_iff_exists.mp inRows
  obtain ⟨memory, rows⟩ := visited_noOrphans defaultReferenceSpace
  exact ⟨⟨reference, found, memory _ (visited_provisioned Tables) _ _ found⟩,
    ⟨reference', found', rows _ (visited_provisioned Rows.Connection) _ _ found'⟩⟩

end ClaimOperator

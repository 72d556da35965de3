import ClaimOperator.Proofs.Reconcile.Statuses
import ClaimOperator.Proofs.Workflow.Rounds

/-! Passes over a live claim converge, in exactly as many passes as it has steps missing and one more.

Each pass does the first of the missing steps, and the last one sees to the reference and
comes to rest. In the end the claim differs from what it was in its link, its marker, its
phase and its error condition only.
-/

set_option autoImplicit false

namespace ClaimOperator

namespace Object

structure Settles (link : ObjectKey) (claim later : Claim) : Prop where
  key : later.key = claim.key
  deletionTime : later.metadata.deletionTime = claim.metadata.deletionTime
  finalizers : later.metadata.finalizers = Finalizers.insert claim.metadata.finalizers Finalizers.claimMarker
  spec : later.spec = { claim.spec with referenceLink := link }
  phase : later.status.phase = ClaimStatus.restingPhase claim.status.phase
  conditions : ∃ now, later.status.conditions = some (Condition.retire now (claim.status.conditions.getD []))
  noError : ∀ condition, later.status.errorCondition? = some condition → condition.status = .isFalse
  others : (later.status.conditions.getD []).filter (fun condition => !condition.isTracked) =
    (claim.status.conditions.getD []).filter fun condition => !condition.isTracked

def passesDue (link : ObjectKey) (claim : Claim) : Nat :=
  1 + (if claim.status.conditions = none then 1 else 0) + (if claim.spec.referenceLink = link then 0 else 1) +
    if claim.hasMarker then 0 else 1

theorem passesDue_eq (link : ObjectKey) (claim : Claim) : claim.passesDue link = (claim.missing link).length + 1 := by
  have opened : (if claim.status.conditions.isSome then [] else [Step.conditions]).length =
      if claim.status.conditions = none then 1 else 0 := by
    cases claim.status.conditions <;> rfl
  have linked : (if claim.spec.referenceLink = link then [] else [Step.link]).length =
      if claim.spec.referenceLink = link then 0 else 1 := by
    split <;> rfl
  have marked : (if claim.hasMarker then [] else [Step.marker]).length = if claim.hasMarker then 0 else 1 := by
    split <;> rfl
  simp only [passesDue, missing, List.length_append, opened, linked, marked]
  omega

theorem Descends.draftReference {link : ObjectKey} {claim later : Claim} (descends : Descends link claim later)
    (space : String) : later.draftReference space = claim.draftReference space := by
  have entity : later.spec.legalEntity = claim.spec.legalEntity := by
    rcases descends.spec with same | linked
    · rw [same]
    · rw [linked]
  rw [Object.draftReference, Object.draftReference, descends.key, entity]

theorem Descends.settles {link : ObjectKey} {claim later : Claim} {now : Timestamp} (descends : Descends link claim later)
    (complete : later.missing link = []) (status : later.status = claim.status.advanced now none) :
    claim.Settles link later where
  key := descends.key
  deletionTime := descends.deletionTime
  finalizers := by
    obtain ⟨_, _, marked⟩ := missing_eq_nil_iff.mp complete
    rcases descends.finalizers with same | inserted
    · rw [Object.hasMarker, same, List.contains_iff_mem] at marked
      rw [same, Finalizers.insert, if_pos marked]
    · exact inserted
  spec := by
    obtain ⟨_, linked, _⟩ := missing_eq_nil_iff.mp complete
    rcases descends.spec with same | linked
    · rw [← linked, same]
    · exact linked
  phase := by rw [status, ClaimStatus.advanced_none]
  conditions := ⟨now, by rw [status, ClaimStatus.advanced_none]⟩
  noError condition found := by
    rw [status, ClaimStatus.advanced_none] at found
    exact Condition.past_of_retire found
  others := by
    rw [status, ClaimStatus.advanced_none]
    exact Condition.filter_retire now _

end Object

namespace Pass

variable {space : String} {before middle after : Contents} {claim between : Claim}

theorem Live.trans (first : Live space before claim middle) (stored : middle .claim claim.key = some between)
    (second : Live space middle between after) : Live space before claim after := by
  obtain ⟨later, entry, descends, provided, rfl⟩ := first
  rw [Contents.set_self] at stored
  cases stored
  obtain ⟨last, entry', descends', provided', rfl⟩ := second
  rw [descends.key] at descends' ⊢
  refine ⟨last, entry', descends.trans descends', ?_, ?_⟩
  · unfold Provided at provided'
    rw [Contents.set_claim_reference, descends.key, Contents.set_self] at provided'
    obtain rfl | ⟨rfl, marked, linked, created⟩ := provided'
    · exact provided.of_descends descends'
    -- The reference is created by the second pass: then there was none before the first.
    · obtain absent | ⟨_, _, _, _, impossible⟩ := provided
      · rw [descends.draftReference] at created
        exact .inr ⟨absent.symm, marked, linked, created⟩
      · cases impossible
  · rw [Contents.set_reference_set_claim, Contents.set_set, Contents.set_set]

theorem resultOf_drop (due : List Step) (passes : Nat) :
    resultOf (due.drop passes) = ⟨decide (passes < due.length), due[passes]?⟩ := by
  rw [← List.head?_drop]
  cases rest : due.drop passes with
  | nil =>
    have := List.drop_eq_nil_iff.mp rest
    simp [resultOf, this]
  | cons step rest' =>
    have within : passes < due.length := by
      by_contra beyond
      rw [List.drop_eq_nil_of_le (Nat.le_of_not_lt beyond)] at rest
      cases rest
    simp [resultOf, within]

end Pass

namespace LocalStore

variable {σ : Type} [LocalStore σ] {space : String} {store : σ} {claim : Claim}

structure Advanced (space : String) (store : σ) (claim : Claim) (result : Except Failure (Option PassResult))
    (after : σ) (later : Claim) : Prop where
  quiet : Quiet after
  result : result = .ok (some (Pass.resultOf (claim.missing (claim.key.referenceKey space))))
  live : Pass.Live space (contents store) claim (contents after)
  stored : contents after .claim claim.key = some later
  stays : later.isLeaving = false
  missing : later.missing (claim.key.referenceKey space) = (claim.missing (claim.key.referenceKey space)).tail
  status : ∃ now, later.status = claim.status.advanced now (claim.missing (claim.key.referenceKey space)).head?
  provided : claim.missing (claim.key.referenceKey space) = [] →
    (contents after .reference (claim.key.referenceKey space)).isSome = true

theorem pass_advanced (quiet : Quiet store) (found : contents store .claim claim.key = some claim)
    (live : claim.isLeaving = false) (space : String) (now : Timestamp) :
    ∃ later, Advanced space store claim (pass space claim.key now store).1 (pass space claim.key now store).2 later := by
  have ensures : (Workflow.reconcile space claim.key).Ensures (.alone (fun _ => False) _) _ (contents store) :=
    (Workflow.ensures_reconcile space claim.key (keyed quiet) nofun).both
      (Workflow.ensures_reconcile_advances space found live)
  have still : Quiet (pass space claim.key now store).2 := (work_ensures ensures quiet faultless now).1
  obtain ⟨verdict, ⟨⟨ended, _⟩, result, rfl, later, clock, stored, status⟩, same⟩ :=
    work_kept ensures quiet faultless now (by
      rintro verdict left ⟨_, result, rfl, _⟩ discarded
      cases discarded)
  obtain ⟨first, later', stored', stays, missing⟩ := ended.advanced claim found live (some result) rfl
  cases stored.symm.trans stored'
  cases first
  refine ⟨later, still, same, ended.leads.live_of_found found live, stored, stays, missing, ⟨clock, ?_⟩, ?_⟩
  · rw [status]
    cases claim.missing (claim.key.referenceKey space) <;> rfl
  · intro complete
    rw [complete] at ended
    exact (ended.settled rfl).2

/-- The missing steps are done one by one, and then the claim is at rest. -/
theorem rests_passes (due : List Step) : ∀ {store : σ} {claim : Claim} {times : List Timestamp}, Quiet store →
    contents store .claim claim.key = some claim → claim.isLeaving = false →
    claim.missing (claim.key.referenceKey space) = due → times.length = due.length + 1 →
    Pass.Live space (contents store) claim (contents (passes space claim.key times store)) ∧
      (∃ (later : Claim) (now : Timestamp),
        contents (passes space claim.key times store) .claim claim.key = some later ∧
        later.missing (claim.key.referenceKey space) = [] ∧ later.status = claim.status.advanced now none) ∧
      (contents (passes space claim.key times store) .reference (claim.key.referenceKey space)).isSome = true := by
  -- The induction is on the steps that are due: each pass takes the first of them off.
  induction due with
  | nil =>
    intro store claim times quiet found live missing length
    obtain ⟨now, rfl⟩ := List.length_eq_one_iff.mp length
    obtain ⟨later, advanced⟩ := pass_advanced quiet found live space now
    obtain ⟨clock, status⟩ := advanced.status
    rw [missing] at status
    exact ⟨advanced.live, ⟨later, clock, advanced.stored, advanced.missing.trans (by rw [missing]; rfl), status⟩,
      advanced.provided missing⟩
  | cons step rest ih =>
    intro store claim times quiet found live missing length
    match times, length with
    | now :: times, length =>
      obtain ⟨between, advanced⟩ := pass_advanced quiet found live space now
      obtain ⟨clock, status⟩ := advanced.status
      have own : between.key = claim.key := keyed advanced.quiet .claim _ between advanced.stored
      have remaining := advanced.missing
      rw [missing, List.tail_cons, ← own] at remaining
      have stored : contents (pass space claim.key now store).2 .claim between.key = some between := by
        rw [own]
        exact advanced.stored
      obtain ⟨later, ⟨last, clock', stored', complete, status'⟩, provided⟩ :=
        ih advanced.quiet stored advanced.stays remaining (Nat.succ.inj length)
      rw [own] at later stored' complete provided
      refine ⟨advanced.live.trans advanced.stored later, ⟨last, clock', stored', complete, ?_⟩, provided⟩
      rw [status', status, missing, List.head?_cons, ClaimStatus.advanced_advanced]

/-- Settling stops with the last missing step that its limit allows, or with the pass that comes to rest. -/
theorem settleFrom_live (now : Timestamp) (due : List Step) : ∀ {session : Session σ} {claim : Claim} {done : Nat}
    {last : Option PassResult} (remaining : Nat), Quiet session.store →
    contents session.store .claim claim.key = some claim → claim.isLeaving = false →
    claim.missing (claim.key.referenceKey space) = due →
    (Workflow.settleFrom serve now space claim.key done last (remaining + 1) session).1 =
        .ok (some (Pass.resultOf (due.drop remaining))) ∧
      (Workflow.settleFrom serve now space claim.key done last (remaining + 1) session).2.store =
        passes space claim.key (List.replicate (min remaining due.length + 1) now) session.store := by
  induction due with
  | nil =>
    intro session claim done last remaining quiet found live missing
    obtain ⟨later, advanced⟩ := pass_advanced quiet found live space now
    obtain ⟨after, store, settled⟩ := settleFrom_of_rest advanced.result (by rw [missing]; rfl) done last remaining
    rw [settled, missing, List.drop_nil, List.length_nil, Nat.min_zero]
    exact ⟨rfl, store⟩
  | cons step rest ih =>
    intro session claim done last remaining quiet found live missing
    obtain ⟨between, advanced⟩ := pass_advanced quiet found live space now
    obtain ⟨after, store, settled⟩ := settleFrom_of_requeue advanced.result (by rw [missing]; rfl) done last remaining
    have own : between.key = claim.key := keyed advanced.quiet .claim _ between advanced.stored
    rw [settled, missing]
    cases remaining with
    | zero => exact ⟨rfl, store⟩
    | succ remaining =>
      have stored : contents after.store .claim between.key = some between := by
        rw [own, store]
        exact advanced.stored
      have remains := advanced.missing
      rw [missing, List.tail_cons, ← own] at remains
      have quiet' : Quiet after.store := store ▸ advanced.quiet
      obtain ⟨outcome, last⟩ := @ih after between (done + 1) (some ⟨true, some step⟩) remaining quiet' stored
        advanced.stays remains
      rw [own] at outcome last
      refine ⟨outcome, last.trans ?_⟩
      rw [store, List.length_cons, Nat.add_min_add_right, List.replicate_succ (n := min _ _ + 1), passes_cons]

/-- How passes over a live claim converge. -/
structure Converges (space : String) (store : σ) (claim : Claim) : Prop where
  -- The limit is reached with a step still missing, or the last pass comes to rest.
  settles : ∀ (now : Timestamp) (limit : Int) (session : Session σ), session.store = store → 1 ≤ limit →
    (Workflow.settle serve now space claim.key limit session).1 =
        .ok (some ⟨decide (limit.toNat < claim.passesDue (claim.key.referenceKey space)),
          (claim.missing (claim.key.referenceKey space))[limit.toNat - 1]?⟩) ∧
      (Workflow.settle serve now space claim.key limit session).2.store =
        passes space claim.key
          (List.replicate (min limit.toNat (claim.passesDue (claim.key.referenceKey space))) now) store
  rests : ∀ times : List Timestamp, times.length = claim.passesDue (claim.key.referenceKey space) →
    ∃ (later : Claim) (reference : Reference), claim.Settles (claim.key.referenceKey space) later ∧
      (contents store .reference (claim.key.referenceKey space) = some reference ∨
        contents store .reference (claim.key.referenceKey space) = none ∧
          ∃ version, reference = (claim.draftReference space).withVersion version) ∧
      contents (passes space claim.key times store) =
        ((contents store).set .reference (claim.key.referenceKey space) (some reference)).set .claim claim.key
          (some later)

theorem converges (quiet : Quiet store) (found : contents store .claim claim.key = some claim)
    (live : claim.isLeaving = false) (space : String) : Converges space store claim where
  settles := by
    rintro now limit session rfl positive
    obtain ⟨remaining, passes⟩ : ∃ remaining, limit.toNat = remaining + 1 := ⟨limit.toNat - 1, by omega⟩
    obtain ⟨outcome, last⟩ := @settleFrom_live σ _ space now _ session claim 0 none remaining quiet found live rfl
    simp only [Workflow.settle, show ¬ limit < 1 by omega, ↓reduceIte, passes, outcome, last, Object.passesDue_eq,
      Nat.add_min_add_right, Nat.add_sub_cancel, Nat.add_lt_add_iff_right, Pass.resultOf_drop, and_self]
  rests times length := by
    rw [Object.passesDue_eq] at length
    obtain ⟨passed, ⟨later, now, stored, complete, status⟩, provided⟩ :=
      @rests_passes σ _ space _ store claim times quiet found live rfl length
    obtain ⟨later', entry, descends, entries, after⟩ := passed
    rw [after, Contents.set_self] at stored
    cases stored
    rw [after, Contents.set_claim_reference, Contents.set_self] at provided
    obtain ⟨reference, rfl⟩ := Option.isSome_iff_exists.mp provided
    refine ⟨later, reference, descends.settles complete status, ?_, after⟩
    obtain same | ⟨absent, _, _, version, created⟩ := entries
    · exact .inl same.symm
    · exact .inr ⟨absent, some version, Option.some.inj created⟩

end LocalStore

/-- Passes over a live claim converge, from any store that requests lead to: in memory and in a table of rows. -/
theorem reached_converges (space : String) :
    (∀ (store : Tables) (claim : Claim), LocalStore.Reached store → store.find? .claim claim.key = some claim →
      claim.isLeaving = false → LocalStore.Converges space store claim) ∧
    ∀ (connection : Rows.Connection) (claim : Claim), LocalStore.Reached connection →
      Rows.contents connection.rows .claim claim.key = some claim → claim.isLeaving = false →
      LocalStore.Converges space connection claim :=
  ⟨fun _ _ reached found live => LocalStore.converges reached.quiet found live space,
    fun _ _ reached found live => LocalStore.converges reached.quiet found live space⟩

def troubledClaim : Claim where
  metadata := { key := ⟨"customer", "my-claim"⟩, finalizers := ["other"], version := some (Text.decimal 2) }
  spec := { legalEntity := default }
  status := { phase := some .error, conditions := some [⟨errorConditionType, .isTrue, "Busy", "", .epoch, .epoch⟩] }

def troubledStore (σ : Type) [LocalStore σ] : σ :=
  let created : σ := (LocalStore.serve (.create (troubledClaim.withVersion none)) .epoch LocalStore.empty).2
  (LocalStore.serve (.updateStatus (troubledClaim.withVersion none)) .epoch created).2

theorem converges_troubled :
    LocalStore.Converges defaultReferenceSpace (troubledStore Tables) troubledClaim ∧
      LocalStore.Converges defaultReferenceSpace (troubledStore Rows.Connection) troubledClaim := by
  have reached : ∀ (σ : Type) [LocalStore σ], LocalStore.Reached (troubledStore σ) :=
    fun σ _ => .served _ _ (.served _ _ .empty)
  obtain ⟨memory, rows⟩ := reached_converges defaultReferenceSpace
  exact ⟨memory _ troubledClaim (reached Tables) (by decide +kernel) rfl,
    rows _ troubledClaim (reached Rows.Connection) (by decide +kernel) rfl⟩

end ClaimOperator

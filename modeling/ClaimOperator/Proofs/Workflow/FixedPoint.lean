import ClaimOperator.Proofs.Reconcile.Idle
import ClaimOperator.Proofs.Workflow.Convergence
import ClaimOperator.Proofs.Workflow.Deletion
import ClaimOperator.Proofs.Workflow.Verdicts

/-! A settled claim is a fixed point of passes.

A pass that asks for no other leaves its claim settled, live or on its way out, if it is
stored at all. From then on every pass only reads, whenever it comes, so nothing in the
store ever changes under it. A pass that asks for another one has changed its live claim.
-/

set_option autoImplicit false

namespace ClaimOperator

theorem ClaimStatus.restingPhase_idem (phase : Option ClaimPhase) :
    restingPhase (restingPhase phase) = restingPhase phase := by
  cases phase with
  | none => rfl
  | some phase => cases phase <;> rfl

theorem Object.rested_of_advanced {link : ObjectKey} {claim later : Claim} {now : Timestamp}
    (live : later.isLeaving = false) (complete : later.missing link = [])
    (status : later.status = claim.status.advanced now none) : later.Rested link where
  live := live
  complete := complete
  phase := by
    rw [status, ClaimStatus.advanced_none]
    exact ClaimStatus.restingPhase_idem _
  noError condition found := by
    rw [status, ClaimStatus.advanced_none] at found
    exact Condition.past_of_retire found

theorem Pass.resultOf_requeue {due : List Step} (rests : (resultOf due).requeue = false) : due = [] := by
  cases due with
  | nil => rfl
  | cons step rest => cases rests

namespace LocalStore

variable {σ : Type} [Counting σ] {space : String} {store : σ} {claim : Claim} {result : PassResult} {now : Timestamp}

theorem counted_pass (counted : Counting.Counted store) {key : ObjectKey}
    (passed : (pass space key now store).1 = .ok (some result)) : Counting.Counted (pass space key now store).2 := by
  let start : Logged (Scheduled σ) := ⟨⟨store, []⟩, []⟩
  have serves : ∀ request now (store : σ), Counting.Counted store → Counting.Counted (serve request now store).2 :=
    fun request now _ counted => Counting.counted_serve counted request now
  have counted' : Counting.Counted start.store.store := counted
  have ran := run_preserves serves now (Workflow.reconcile space key) counted'
  have commits := @Workflow.commits_of_result _ (Action.scheduledHandler now) start space key result
  simp only [pass, work, Session.transact, opened_scheduled] at passed ⊢
  split
  · exact ran
  · next dropped =>
    rw [if_neg dropped] at passed
    exact absurd (commits passed) dropped

theorem pass_unmarked (counted : Counting.Counted store) (found : contents store .claim claim.key = some claim)
    (leaving : claim.isLeaving = true) (unmarked : claim.hasMarker = false) (space : String) (now : Timestamp) :
    pass space claim.key now store =
        (.ok (some ⟨false, some .deletion⟩),
          Service.after serve now store (Pass.discarding space (contents store) claim)) ∧
      calls space claim.key now store =
        [⟨.get, .claim, claim.key⟩, ⟨.get, .reference, claim.key.referenceKey space⟩] ++
          (Pass.discarding space (contents store) claim).toList.map StoreRequest.call := by
  let read : Journaled σ := ⟨store, [⟨.get, .claim, claim.key⟩]⟩
  have counted' : Counting.Counted read.store := counted
  obtain ⟨passed, asked⟩ := pass_of_run counted found (Pass.run_unmarked counted' leaving unmarked)
  rw [Service.after_journaled] at passed asked
  exact ⟨passed, asked⟩

/-- Passes over a settled claim only read: the claim, and the reference. -/
theorem idle_of_settled {key : ObjectKey} (own : claim.key = key) (counted : Counting.Counted store)
    (found : contents store .claim key = some claim) (settled : (contents store).Settled space claim result)
    (now : Timestamp) :
    pass space key now store = (.ok (some result), store) ∧
      calls space key now store = [⟨.get, .claim, key⟩, ⟨.get, .reference, key.referenceKey space⟩] := by
  subst own
  cases settled with
  | @rested reference rested stored =>
    let read : Journaled σ := ⟨store, [⟨.get, .claim, claim.key⟩]⟩
    have counted' : Counting.Counted read.store := counted
    have stored' : contents read.store .reference (claim.key.referenceKey space) = some reference := stored
    exact pass_of_run counted found (Pass.run_rested counted' rested stored')
  | parted leaving unmarked goes =>
    obtain ⟨passed, asked⟩ := pass_unmarked counted found leaving unmarked space now
    rw [Pass.discarding_eq_none goes] at passed asked
    exact ⟨passed, asked⟩

/-- How passes over a claim come to rest, and what they do until then. -/
structure Steadies (space : String) (store : σ) (claim : Claim) : Prop where
  returns : ∀ now, ∃ result, (pass space claim.key now store).1 = .ok (some result)
  -- The whole store stays, with every version in it: whenever the later passes come, and however many there are.
  rests : ∀ now result, (pass space claim.key now store).1 = .ok (some result) → result.requeue = false →
    contents (pass space claim.key now store).2 .claim claim.key ≠ none → ∀ times later,
      pass space claim.key later (passes space claim.key times (pass space claim.key now store).2) =
          (.ok (some result), (pass space claim.key now store).2) ∧
        calls space claim.key later (passes space claim.key times (pass space claim.key now store).2) =
          [⟨.get, .claim, claim.key⟩, ⟨.get, .reference, claim.key.referenceKey space⟩]
  moves : ∀ now result, claim.isLeaving = false → (pass space claim.key now store).1 = .ok (some result) →
    result.requeue = true →
      ∃ later, contents (pass space claim.key now store).2 .claim claim.key = some later ∧
        later.withVersion none ≠ claim.withVersion none

/-- What a pass that asks for no other leaves behind, if it leaves the claim. -/
structure SettlesIn (space : String) (key : ObjectKey) (result : PassResult) (after : σ) (later : Claim) : Prop where
  own : later.key = key
  found : contents after .claim key = some later
  settled : (contents after).Settled space later result

theorem settlesIn_live (quiet : Quiet store) (found : contents store .claim claim.key = some claim)
    (live : claim.isLeaving = false) (passed : (pass space claim.key now store).1 = .ok (some result))
    (last : result.requeue = false) :
    ∃ later, SettlesIn space claim.key result (pass space claim.key now store).2 later := by
  obtain ⟨later, advanced⟩ := pass_advanced quiet found live space now
  cases passed.symm.trans advanced.result
  have due := Pass.resultOf_requeue last
  have own : later.key = claim.key := keyed advanced.quiet .claim _ later advanced.stored
  obtain ⟨clock, status⟩ := advanced.status
  have provided := advanced.provided due
  have complete := advanced.missing
  rw [due, List.head?_nil] at status
  rw [due, List.tail_nil] at complete
  rw [due]
  obtain ⟨reference, stored⟩ := Option.isSome_iff_exists.mp provided
  rw [← own] at complete
  have rested := Object.rested_of_advanced advanced.stays complete status
  have stored' : contents (pass space claim.key now store).2 .reference (later.key.referenceKey space) =
      some reference := by
    rw [own]
    exact stored
  exact ⟨later, own, advanced.stored, .rested rested stored'⟩

theorem settlesIn_marked (parting : Parting store claim)
    (passed : (pass space claim.key now store).1 = .ok (some result)) (last : result.requeue = false)
    (stays : contents (pass space claim.key now store).2 .claim claim.key ≠ none) :
    ∃ later, SettlesIn space claim.key result (pass space claim.key now store).2 later := by
  obtain ⟨outcome, _⟩ := pass_exact parting.counted parting.found parting.leaving parting.marked space now
  cases passed.symm.trans outcome
  have absent : contents store .reference (claim.key.referenceKey space) = none := by
    simpa using last
  obtain ⟨fresh, after⟩ := parting.contents_of_absent absent now
  obtain ⟨later, stored⟩ := Option.ne_none_iff_exists'.mp stays
  have left := stored
  rw [after, Contents.set_self, Object.released] at left
  split at left
  · cases left
  · cases left
    rw [absent]
    refine ⟨_, ?_, stored, .parted ?_ ?_ fun reference there => ?_⟩
    · rfl
    · exact parting.leaving
    · exact Object.hasMarker_removeMarker claim
    · rw [after, Contents.set_claim_reference] at there
      cases absent.symm.trans there

theorem settlesIn_unmarked (counted : Counting.Counted store) (found : contents store .claim claim.key = some claim)
    (leaving : claim.isLeaving = true) (unmarked : claim.hasMarker = false)
    (passed : (pass space claim.key now store).1 = .ok (some result)) :
    SettlesIn space claim.key result (pass space claim.key now store).2 claim := by
  obtain ⟨outcome, _⟩ := pass_unmarked counted found leaving unmarked space now
  rw [outcome] at passed ⊢
  cases passed
  by_cases goes : ∀ reference, contents store .reference (claim.key.referenceKey space) = some reference →
      reference.isLeaving = true
  · rw [Pass.discarding_eq_none goes]
    exact ⟨rfl, found, .parted leaving unmarked goes⟩
  · push Not at goes
    obtain ⟨reference, stored, live⟩ := goes
    have live := Bool.eq_false_iff.mpr live
    obtain ⟨fresh, after⟩ := contents_of_discard counted stored live now
    rw [Pass.discarding_of_live stored live, Service.after]
    refine ⟨rfl, ?_, .parted leaving unmarked fun other there => ?_⟩
    · rw [after, Contents.set_reference_claim]
      exact found
    · rw [after, Contents.set_self] at there
      obtain ⟨marked, held, rfl⟩ := Option.map_eq_some_iff.mp there
      have leaves : marked.isLeaving = true := WriteRules.isLeaving_of_mark? held
      exact leaves

theorem Reached.steadies (reached : Reached store) (found : contents store .claim claim.key = some claim)
    (space : String) : Steadies space store claim := by
  obtain ⟨counted, present⟩ := reached.counted_present
  have quiet := reached.quiet
  refine ⟨?_, ?_, ?_⟩
  · intro now
    cases leaving : claim.isLeaving with
    | false =>
      obtain ⟨later, advanced⟩ := pass_advanced quiet found leaving space now
      exact ⟨_, advanced.result⟩
    | true =>
      cases marked : claim.hasMarker with
      | true => exact ⟨_, (pass_exact counted found leaving marked space now).1⟩
      | false => exact ⟨_, congrArg Prod.fst (pass_unmarked counted found leaving marked space now).1⟩
  · intro now result passed last stays
    have settles : ∃ later, SettlesIn space claim.key result (pass space claim.key now store).2 later := by
      cases leaving : claim.isLeaving with
      | false => exact settlesIn_live quiet found leaving passed last
      | true =>
        cases marked : claim.hasMarker with
        | true => exact settlesIn_marked ⟨counted, present, found, leaving, marked⟩ passed last stays
        | false => exact ⟨claim, settlesIn_unmarked counted found leaving marked passed⟩
    obtain ⟨later, own, stored, settled⟩ := settles
    have idle : ∀ moment, _ := idle_of_settled own (counted_pass counted passed) stored settled
    have fixed : ∀ moment, (pass space claim.key moment (pass space claim.key now store).2).2 =
        (pass space claim.key now store).2 := by
      intro moment
      rw [(idle moment).1]
    intro times moment
    rw [passes_of_idle fixed]
    exact idle moment
  · intro now result live passed more
    obtain ⟨later, advanced⟩ := pass_advanced quiet found live space now
    cases passed.symm.trans advanced.result
    refine ⟨later, advanced.stored, fun same => ?_⟩
    -- The version has no part in what is missing.
    have missing : (later.withVersion none).missing (claim.key.referenceKey space) =
        (claim.withVersion none).missing (claim.key.referenceKey space) := by rw [same]
    have missing : later.missing (claim.key.referenceKey space) = claim.missing (claim.key.referenceKey space) := missing
    rw [advanced.missing] at missing
    cases due : claim.missing (claim.key.referenceKey space) with
    | nil =>
      rw [due] at more
      cases more
    | cons step rest =>
      have shorter := congrArg List.length missing
      simp [due] at shorter

end LocalStore

/-- A settled claim is a fixed point, from any store that requests lead to: in memory and in a table of rows. -/
theorem reached_steadies (space : String) :
    (∀ (store : Tables) (claim : Claim), LocalStore.Reached store → store.find? .claim claim.key = some claim →
      LocalStore.Steadies space store claim) ∧
    ∀ (connection : Rows.Connection) (claim : Claim), LocalStore.Reached connection →
      Rows.contents connection.rows .claim claim.key = some claim → LocalStore.Steadies space connection claim :=
  ⟨fun _ _ reached found => reached.steadies found space, fun _ _ reached found => reached.steadies found space⟩

/-- The claim of the troubled store comes to rest, and so does the one of the store that it is to leave. -/
theorem steadies_troubled_parting :
    (LocalStore.Steadies defaultReferenceSpace (troubledStore Tables) troubledClaim ∧
      LocalStore.Steadies defaultReferenceSpace (troubledStore Rows.Connection) troubledClaim) ∧
    LocalStore.Steadies defaultReferenceSpace (partingStore Tables) partingClaim ∧
      LocalStore.Steadies defaultReferenceSpace (partingStore Rows.Connection) partingClaim := by
  have troubled : ∀ (σ : Type) [LocalStore σ], LocalStore.Reached (troubledStore σ) :=
    fun σ _ => .served _ _ (.served _ _ .empty)
  have parting : ∀ (σ : Type) [LocalStore σ], LocalStore.Reached (partingStore σ) :=
    fun σ _ => .served _ _ (.served _ _ (.served _ _ .empty))
  obtain ⟨memory, rows⟩ := reached_steadies defaultReferenceSpace
  exact ⟨⟨memory _ troubledClaim (troubled Tables) (by decide +kernel),
      rows _ troubledClaim (troubled Rows.Connection) (by decide +kernel)⟩,
    memory _ partingClaim (parting Tables) (by decide +kernel),
    rows _ partingClaim (parting Rows.Connection) (by decide +kernel)⟩

end ClaimOperator

import ClaimOperator.Proofs.Reconcile.Halts
import ClaimOperator.Proofs.Reconcile.Statuses

/-! What a failed step leaves in a local store that nobody else writes to.

The failed request wrote nothing, so the claim is stored as before the step. The record of the
error writes the status of the snapshot, in which the step had already made its change: a phase
that could not be entered is stored after all, together with the error.
-/

set_option autoImplicit false

namespace ClaimOperator

namespace Condition

/-- The conditions with this entry for the tracked type, in the place of the first one or else at the end. -/
def track (entry : Condition) : List Condition → List Condition
  | [] => [entry]
  | condition :: rest => if condition.isTracked then entry :: rest else condition :: track entry rest

theorem find?_track {entry : Condition} (tracked : entry.isTracked = true) (conditions : List Condition) :
    (entry.track conditions).find? isTracked = some entry := by
  induction conditions with
  | nil => exact List.find?_cons_of_pos tracked
  | cons condition rest ih =>
    unfold track
    by_cases first : condition.isTracked = true
    · rw [if_pos first, List.find?_cons_of_pos tracked]
    · rw [if_neg first, List.find?_cons_of_neg first, ih]

/-- The record of an error, whatever its times. -/
structure Records (entry : Condition) (reason message : String) : Prop where
  tracked : entry.isTracked = true
  status : entry.status = .isTrue
  reason : entry.reason = reason
  message : entry.message = message

theorem applyTo?_eq_track (reason message : String) (now : Timestamp) (conditions : List Condition) :
    ∃ entry : Condition, entry.Records reason message ∧
      ConditionUpdate.applyTo? ⟨.isTrue, reason, message⟩ now conditions = some (entry.track conditions) := by
  induction conditions with
  | nil => exact ⟨_, ⟨rfl, rfl, rfl, rfl⟩, rfl⟩
  | cons condition rest ih =>
    unfold ConditionUpdate.applyTo? track
    by_cases first : condition.isTracked = true
    · simp only [first, ↓reduceIte]
      exact ⟨ConditionUpdate.revise ⟨.isTrue, reason, message⟩ now condition, ⟨first, rfl, rfl, rfl⟩, rfl⟩
    · obtain ⟨entry, records, applied⟩ := ih
      simp only [first, Bool.false_eq_true, ↓reduceIte]
      exact ⟨entry, records, by rw [applied]; rfl⟩

end Condition

theorem ClaimStatus.flagged_eq_track (status : ClaimStatus) (step : Step) (error : StoreError) (now : Timestamp) :
    ∃ entry : Condition, entry.Records step.text error.message ∧ status.flagged step error now =
      { phase := status.phase, conditions := some (entry.track (status.conditions.getD [])) } := by
  obtain ⟨entry, records, applied⟩ :=
    Condition.applyTo?_eq_track step.text error.message now (status.conditions.getD [])
  exact ⟨entry, records, by simp [flagged, update?, applied]⟩

def Step.movesPhase : Step → Bool
  | pendingPhase | pendingProjectPhase => true
  | _ => false

theorem ClaimStatus.conditions_turned (status : ClaimStatus) (step : Step) :
    (status.turned step).conditions.getD [] = status.conditions.getD [] := by
  have entered (target : ClaimPhase) : (status.entering target).conditions = status.conditions := by
    unfold entering
    split <;> rfl
  cases step with
  | pendingPhase => exact congrArg (·.getD []) (entered .pending)
  | pendingProjectPhase => exact congrArg (·.getD []) (entered .pendingProject)
  | _ => rfl

theorem ClaimStatus.phase_turned (status : ClaimStatus) {step : Step} (stays : step.movesPhase = false) :
    (status.turned step).phase = status.phase := by
  cases step with
  | pendingPhase | pendingProjectPhase => cases stays
  | _ => rfl

namespace Scheduled

variable {σ : Type} [LocalStore σ] {scheduled : Scheduled σ}

/-- The error with which the next request is made to fail, if it is. -/
def awaits (scheduled : Scheduled σ) : Option StoreError := scheduled.plan.head?.join

theorem store_of_awaits {error : StoreError} (fails : scheduled.awaits = some error) (request : StoreRequest)
    (now : Timestamp) :
    (Service.scheduled LocalStore.serve request now scheduled).2.store = scheduled.store := by
  obtain ⟨store, plan⟩ := scheduled
  match plan, fails with
  | some _ :: _, _ => rfl

theorem contents_of_spared (quiet : LocalStore.Quiet scheduled.store) (spared : scheduled.awaits = none)
    (request : StoreRequest) (now : Timestamp) : ∃ fresh,
      LocalStore.contents (Service.scheduled LocalStore.serve request now scheduled).2.store =
        ((LocalStore.contents scheduled.store).serve fresh now request).2 := by
  obtain ⟨store, plan⟩ := scheduled
  obtain ⟨_, fresh, served⟩ := LocalStore.serves quiet request now
  refine ⟨fresh, ?_⟩
  match plan, spared with
  | [], _ => exact congrArg Prod.snd served
  | none :: _, _ => exact congrArg Prod.snd served

end Scheduled

namespace Object

/-- The claim with another version, and with the conditions as they were or with one entry put for the tracked type. -/
def SameButError (earlier later : Claim) : Prop :=
  ∃ version conditions,
    later = { earlier with metadata.version := version, status.conditions := conditions } ∧
    (conditions = earlier.status.conditions ∨ ∃ entry : Condition, entry.isTracked = true ∧
      conditions = some (entry.track (earlier.status.conditions.getD [])))

theorem SameButError.refl (claim : Claim) : claim.SameButError claim := ⟨_, _, rfl, .inl rfl⟩

theorem SameButError.phase {earlier later : Claim} (same : earlier.SameButError later) :
    later.status.phase = earlier.status.phase := by
  obtain ⟨version, conditions, rfl, _⟩ := same
  rfl

end Object

abbrev Regime.troubled : Regime Contents := .alone (fun _ => True) (fun _ => True)

namespace Pass

open Operation Pairing

/-- After a step that failed the claim is stored as before, and the snapshot has the step's change of the status. -/
structure Failed (step : Step) (earlier : Claim) (pairing : Pairing) (contents : Contents) : Prop where
  stored : contents .claim earlier.key = some earlier
  key : pairing.claim.key = earlier.key
  version : pairing.claim.metadata.version = earlier.metadata.version
  status : pairing.claim.status = earlier.status.turned step
  moved : step.movesPhase = true → (earlier.status.turned step).phase ≠ earlier.status.phase

def Stepped (step : Step) (earlier : Claim) (outcome : Except Failure Change) (pairing : Pairing)
    (contents : Contents) : Prop :=
  match outcome with
  | .ok _ => ∃ status, Standing earlier.key status pairing contents
  | .error _ => Failed step earlier pairing contents

variable {status : ClaimStatus} {pairing : Pairing} {contents : Contents}

section Steps

variable (standing : Standing pairing.claim.key status pairing contents)

include standing

theorem Standing.stepped_unchanged (step : Step) : Stepped step pairing.claim (.ok .unchanged) pairing contents :=
  ⟨status, standing⟩

theorem Standing.stepped_saves {changed : Claim} (step : Step) (own : changed.key = pairing.claim.key)
    (live : changed.isLeaving = pairing.claim.isLeaving)
    (version : changed.metadata.version = pairing.claim.metadata.version)
    (same : changed.status = pairing.claim.status.turned step)
    (moved : step.movesPhase = true → (pairing.claim.status.turned step).phase ≠ pairing.claim.status.phase) :
    Saves (fun _ => True) (fun _ => True) (Stepped step pairing.claim) pairing contents changed where
  written fresh := by
    have later : Standing pairing.claim.key (changed.withVersion (some fresh)).status _ _ := standing.write own live
    exact ⟨trivial, _, later⟩
  failed _ _ := ⟨trivial, standing.current, own, version, same, moved⟩

theorem stepped_openConditions :
    openConditions.Ensures .troubled (Stepped .conditions pairing.claim) pairing contents := by
  refine ensures_openConditions standing.current ?_ ?_
  · exact fun _ => standing.stepped_unchanged _
  · intro closed
    refine standing.stepped_saves .conditions rfl rfl rfl ?_ nofun
    simp [ClaimStatus.turned, ClaimStatus.opened, closed, Object.opened]

theorem stepped_enterPhase {step : Step} {target : ClaimPhase}
    (turns : ∀ status : ClaimStatus, status.turned step = status.entering target) :
    (enterPhase target).Ensures .troubled (Stepped step pairing.claim) pairing contents := by
  refine ensures_enterPhase standing.current target ?_ ?_
  · exact fun _ => standing.stepped_unchanged _
  · intro follows
    have entered : pairing.claim.status.turned step = { pairing.claim.status with phase := some target } := by
      rw [turns, ClaimStatus.entering, if_pos follows]
    refine standing.stepped_saves step rfl rfl rfl entered.symm ?_
    intro _ same
    rw [entered] at same
    simp [ClaimPhase.canFollow, ← same] at follows

theorem stepped_linkReference :
    linkReference.Ensures .troubled (Stepped .link pairing.claim) pairing contents := by
  refine ensures_linkReference standing.current standing.live ?_ ?_
  · exact fun _ => standing.stepped_unchanged _
  · exact fun _ => standing.stepped_saves .link rfl rfl rfl rfl nofun

theorem stepped_holdClaim : holdClaim.Ensures .troubled (Stepped .marker pairing.claim) pairing contents := by
  refine ensures_holdClaim standing.current ?_ ?_
  · exact fun _ => standing.stepped_unchanged _
  · exact fun _ => standing.stepped_saves .marker rfl rfl rfl rfl nofun

end Steps

/-- A look for the reference that is made to fail may still count as a miss. -/
theorem ensures_findReference_troubled {post : Except Failure Bool → Pairing → Contents → Prop}
    (looked : ∀ found, post (.ok found.isSome) (pairing.finding found) contents)
    (failed : ∀ error, post (.error (.store error)) pairing contents) :
    findReference.Ensures .troubled post pairing contents := by
  simp only [findReference, ensures_bind, ensures_get, ensures_tryCatch, ensures_map]
  refine (ensures_ask_alone (.get .reference pairing.referenceKey)).mpr
    ⟨fun fresh now => ⟨trivial, ?_⟩, fun error _ => ⟨trivial, ?_⟩⟩
  · cases found : contents .reference pairing.referenceKey with
    | some reference =>
      rw [Contents.serve_get_of_found found]
      exact looked (some reference)
    | none =>
      rw [Contents.serve_get_of_absent found]
      exact looked none
  · simp only [Except.map]
    split
    · exact looked none
    · exact failed error

theorem stepped_provideReference (standing : Standing pairing.claim.key status pairing contents) :
    provideReference.Ensures .troubled (Stepped .reference pairing.claim) pairing contents := by
  have failed (found : Option Reference) : Failed .reference pairing.claim (pairing.finding found) contents :=
    ⟨standing.current, rfl, rfl, rfl, nofun⟩
  simp only [provideReference, ensures_bind]
  refine ensures_findReference_troubled ?_ fun error => failed pairing.found
  intro found
  cases found with
  | some reference => exact ⟨status, standing.finding (some reference)⟩
  | none =>
    simp only [Option.isSome_none, Bool.false_eq_true, ↓reduceIte, Operation.note, ensures_bind, ensures_get,
      ensures_note, ensures_modify, ensures_pure]
    refine (ensures_ask_alone (.create pairing.reference)).mpr
      ⟨fun fresh now => ⟨trivial, ?_⟩, fun error _ => ⟨trivial, failed none⟩⟩
    -- A look that was made to miss does not hide the reference from its creation.
    cases there : contents .reference pairing.reference.key with
    | some reference =>
      rw [Contents.serve_create_of_found there]
      exact failed none
    | none =>
      rw [Contents.serve_create_of_absent there]
      exact ⟨status, standing.create _ _ _⟩

theorem stepped_stages : ∀ stage ∈ stages, ∀ {status pairing contents},
    Standing pairing.claim.key status pairing contents →
    stage.operation.Ensures .troubled (Stepped stage.step pairing.claim) pairing contents := by
  intro stage member status pairing contents standing
  simp only [stages, List.mem_cons, List.not_mem_nil, or_false] at member
  obtain rfl | rfl | rfl | rfl | rfl | rfl := member
  · exact stepped_openConditions standing
  · exact stepped_enterPhase standing fun _ => rfl
  · exact stepped_linkReference standing
  · exact stepped_holdClaim standing
  · exact stepped_provideReference standing
  · exact stepped_enterPhase standing fun _ => rfl

section Runs

variable {σ : Type} [LocalStore σ] {now : Timestamp} {state : Logged (Scheduled σ)} {halt : Halt (Logged (Scheduled σ))}

abbrev stored (state : Logged (Scheduled σ)) : Contents := LocalStore.contents state.store.store

theorem Halts.failed {list : List Stage} {key : ObjectKey}
    (stepped : ∀ stage ∈ list, ∀ {status pairing contents}, Standing pairing.claim.key status pairing contents →
      stage.operation.Ensures .troubled (Stepped stage.step pairing.claim) pairing contents)
    (halts : Halts (Action.scheduledHandler now) list pairing state halt) (quiet : LocalStore.Quiet state.store.store)
    (standing : Standing key status pairing (stored state)) :
    ∃ earlier : Claim, earlier.key = key ∧ stored halt.before .claim key = some earlier ∧
      Failed halt.step earlier halt.pairing (stored halt.after) ∧ LocalStore.Quiet halt.after.store.store := by
  induction halts generalizing status with
  | @here stage rest pairing left state after error failed =>
    obtain rfl := standing.key
    have ends := (stepped stage List.mem_cons_self standing).execute quiet (fun _ _ => trivial) now
    rw [failed] at ends
    exact ⟨pairing.claim, rfl, standing.current, ends.2, ends.1⟩
  | @later stage rest pairing left state after change halt passed goesOn halts ih =>
    obtain rfl := standing.key
    have ends := (stepped stage List.mem_cons_self standing).execute quiet (fun _ _ => trivial) now
    rw [passed] at ends
    obtain ⟨quiet, status, standing⟩ := ends
    exact ih (fun other member => stepped other (List.mem_cons_of_mem _ member)) quiet standing

theorem Halt.stored_handling_of_awaits {error : StoreError} (fails : halt.after.store.awaits = some error) :
    stored (halt.handling (Action.scheduledHandler now)).state = stored halt.after := by
  rw [stored, Halt.store_handling, Scheduled.store_of_awaits fails]

theorem Halt.stored_handling_of_spared {earlier : Claim}
    (failed : Failed halt.step earlier halt.pairing (stored halt.after))
    (quiet : LocalStore.Quiet halt.after.store.store) (spared : halt.after.store.awaits = none) : ∃ fresh : String,
      stored (halt.handling (Action.scheduledHandler now)).state .claim earlier.key =
        some ((earlier.withStatus ((earlier.status.turned halt.step).flagged halt.step halt.error now)).withVersion
          (some fresh)) := by
  have own : (halt.flagged (Action.scheduledHandler now)).key = earlier.key := failed.key
  have status : (halt.flagged (Action.scheduledHandler now)).status =
      (earlier.status.turned halt.step).flagged halt.step halt.error now := by
    rw [← failed.status]
    rfl
  have found : stored halt.after .claim (halt.flagged (Action.scheduledHandler now)).key = some earlier := by
    rw [own]
    exact failed.stored
  have matched := (WriteRules.matchVersion_eq_ok_iff earlier (halt.flagged (Action.scheduledHandler now))).mpr
    (.inr failed.version)
  obtain ⟨fresh, written⟩ := Scheduled.contents_of_spared quiet spared
    (.updateStatus (halt.flagged (Action.scheduledHandler now))) now
  refine ⟨fresh, ?_⟩
  rw [stored, Halt.store_handling, written, Contents.serve_updateStatus_of_found found matched, own, ← status]
  exact Contents.set_self _ _ _ _

/-- What a failed step leaves behind: the claim as it was stored before the step, but for its version, the error
condition and the phase. If the record was not made to fail as well, it puts the error on the claim, and the phase that
the step was to enter with it. So nothing but the error is left exactly if the step enters no phase or its record
failed. -/
theorem halted_leaves {claim : Claim} {space : String} (quiet : LocalStore.Quiet state.store.store)
    (found : stored state .claim claim.key = some claim) (live : claim.isLeaving = false)
    (halts : Halts (Action.scheduledHandler now) stages (.of claim space) state halt) :
    ∃ earlier later : Claim, stored halt.before .claim claim.key = some earlier ∧
      stored (run.execute (Action.scheduledHandler now) (.of claim space) state).state .claim claim.key = some later ∧
      (halt.after.store.awaits = none → ∃ entry, later.status.errorCondition? = some entry ∧
        entry.Records halt.step.text halt.error.message) ∧
      later.status.phase =
        (if halt.after.store.awaits = none then earlier.status.turned halt.step else earlier.status).phase ∧
      earlier.SameButError { later with status.phase := earlier.status.phase } ∧
      (earlier.SameButError later ↔ halt.step.movesPhase = true → halt.after.store.awaits ≠ none) := by
  have standing : Standing claim.key claim.status (.of claim space) (stored state) := ⟨found, live, rfl, rfl⟩
  obtain ⟨earlier, own, before, failed, quiet⟩ := halts.failed stepped_stages quiet standing
  rw [halts.execute_run live, ← own]
  rw [← own] at before
  cases fate : halt.after.store.awaits with
  | some error =>
    refine ⟨earlier, earlier, before, ?_, nofun, ?_, ?_, ?_⟩
    · rw [Halt.stored_handling_of_awaits fate, failed.stored]
    · simp
    · exact .refl earlier
    · simp [Object.SameButError.refl]
  | none =>
    obtain ⟨fresh, written⟩ := Halt.stored_handling_of_spared failed quiet fate
    obtain ⟨entry, records, flagged⟩ := ClaimStatus.flagged_eq_track (earlier.status.turned halt.step) halt.step
      halt.error now
    rw [flagged, ClaimStatus.conditions_turned] at written
    refine ⟨earlier, _, before, written, ?_, ?_, ?_, ?_⟩
    · exact fun _ => ⟨entry, Condition.find?_track records.tracked _, records⟩
    · rfl
    · exact ⟨_, _, rfl, .inr ⟨entry, records.tracked, rfl⟩⟩
    · constructor
      · exact fun same moves => absurd same.phase (failed.moved moves)
      · intro stays
        have phase := earlier.status.phase_turned (Bool.eq_false_iff.mpr fun moves => stays moves rfl)
        rw [phase]
        exact ⟨_, _, rfl, .inr ⟨entry, records.tracked, rfl⟩⟩

/-- A failed step leaves only the error condition behind. -/
def LeavesOnlyError (now : Timestamp) (claim : Claim) (space : String) (state : Logged (Scheduled σ)) : Prop :=
  ∀ halt, Halts (Action.scheduledHandler now) stages (.of claim space) state halt →
    ∃ earlier later : Claim, stored halt.before .claim claim.key = some earlier ∧
      stored (run.execute (Action.scheduledHandler now) (.of claim space) state).state .claim claim.key = some later ∧
      earlier.SameButError later ∧
      (halt.after.store.awaits = none → ∃ entry, later.status.errorCondition? = some entry ∧
        entry.Records halt.step.text halt.error.message)

end Runs

/-! A stored claim, with its conditions initialised or not, and one write that is made to fail. -/

section Refused

def reportedClaim (conditions : Option (List Condition)) : Claim where
  metadata := { key := ⟨"customer", "my-claim"⟩, version := some "1" }
  spec := { legalEntity := ⟨"Example Corp", "entity-1"⟩ }
  status := { conditions := conditions }

def refusedOnce (conditions : Option (List Condition)) : Logged (Scheduled Tables) :=
  ⟨⟨(Tables.serve (.create (reportedClaim conditions)) .epoch {}).2, [some (.injected .other "refused")]⟩, []⟩

abbrev plannedHandler : Handler (Logged (Scheduled Tables)) := Action.scheduledHandler .epoch

def haltAt (step : Step) (operation : Operation Change) (conditions : Option (List Condition)) :
    Halt (Logged (Scheduled Tables)) :=
  let failed := operation.execute plannedHandler (.of (reportedClaim conditions) "operator") (refusedOnce conditions)
  ⟨step, .injected .other "refused", failed.pairing, refusedOnce conditions, failed.state⟩

/-- The phase that could not be entered is stored with the error. -/
theorem not_leavesOnlyError_pending :
    ¬ LeavesOnlyError .epoch (reportedClaim (some [])) "operator" (refusedOnce (some [])) := by
  intro leaves
  have halts : Halts plannedHandler stages (.of (reportedClaim (some [])) "operator") (refusedOnce (some []))
      (haltAt .pendingPhase (enterPhase .pending) (some [])) := .later rfl rfl (.here rfl)
  obtain ⟨earlier, later, before, after, same, _⟩ := leaves _ halts
  have unset : (stored (haltAt .pendingPhase (enterPhase .pending) (some [])).before .claim
      (reportedClaim (some [])).key).map (·.status.phase) = some none := by decide +kernel
  have entered : (stored (run.execute plannedHandler (.of (reportedClaim (some [])) "operator")
      (refusedOnce (some []))).state .claim (reportedClaim (some [])).key).map (·.status.phase) =
      some (some .pending) := by decide +kernel
  rw [before] at unset
  rw [after] at entered
  have moved := (Option.some.inj entered).symm.trans (same.phase.trans (Option.some.inj unset))
  cases moved

theorem halted_leaves_conditions : ∃ earlier later : Claim,
    stored (refusedOnce none) .claim (reportedClaim none).key = some earlier ∧
    stored (run.execute plannedHandler (.of (reportedClaim none) "operator") (refusedOnce none)).state .claim
      (reportedClaim none).key = some later ∧
    earlier.SameButError later ∧
    ∃ entry, later.status.errorCondition? = some entry ∧ entry.Records "InitializeFailed" "refused" := by
  have halts : Halts plannedHandler stages (.of (reportedClaim none) "operator") (refusedOnce none)
      (haltAt .conditions openConditions none) := .here rfl
  obtain ⟨earlier, later, before, after, recorded, _, _, same⟩ := halted_leaves trivial (by decide +kernel) rfl halts
  exact ⟨earlier, later, before, after, same.mpr nofun, recorded rfl⟩

end Refused

end Pass

end ClaimOperator

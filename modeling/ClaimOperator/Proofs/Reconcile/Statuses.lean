import ClaimOperator.Proofs.Reconcile.WholePass

/-! What an undisturbed pass makes of the status of a live claim.

Every stage turns the status in a fixed way, whether it writes or not, so the status after
a pass follows from the one before and from the stage at which the pass ended. Only the
pass that ends at none of them takes a standing error back.
-/

set_option autoImplicit false

namespace ClaimOperator

def Regime.undisturbed : Regime Contents := .alone (fun _ => False) (fun _ => True)

theorem Action.Ensures.both {α : Type} {injected : StoreError → Prop} {keeps keeps' : Contents → Prop}
    {post post' : α → Contents → Prop} {action : Action α} {contents : Contents}
    (first : action.Ensures (.alone injected keeps) post contents)
    (second : action.Ensures (.alone injected keeps') post' contents) :
    action.Ensures (.alone injected fun contents => keeps contents ∧ keeps' contents)
      (fun value contents => post value contents ∧ post' value contents) contents := by
  induction action generalizing contents with
  | done value => exact ⟨first, second⟩
  | perform effect next ih =>
    cases effect with
    | ask request =>
      intro met drifted answer left answered
      obtain ⟨kept, later⟩ := first met drifted answer left answered
      obtain ⟨kept', later'⟩ := second met drifted answer left answered
      exact ⟨⟨kept, kept'⟩, ih answer later later'⟩
    | clock => exact fun now => ih now (first now) (second now)
    | note entry => exact ih () first second

/-- The first entry of the tracked type taken back, unless it is past already; the others as they are. -/
def Condition.retire (now : Timestamp) : List Condition → List Condition
  | [] => []
  | condition :: rest =>
    if condition.isTracked then
      (if condition.status = .isFalse then condition
        else ConditionUpdate.revise ⟨.isFalse, settledReason, ""⟩ now condition) :: rest
    else condition :: retire now rest

namespace Condition

theorem retire_of_past {now : Timestamp} {conditions : List Condition}
    (past : ∀ condition, conditions.find? isTracked = some condition → condition.status = .isFalse) :
    retire now conditions = conditions := by
  induction conditions with
  | nil => rfl
  | cons condition rest ih =>
    unfold retire
    by_cases tracked : condition.isTracked = true
    · rw [if_pos tracked, if_pos (past condition (List.find?_cons_of_pos tracked))]
    · rw [if_neg tracked, ih]
      intro other found
      exact past other (by rwa [List.find?_cons_of_neg tracked])

theorem applyTo?_of_standing {now : Timestamp} {conditions : List Condition} {condition : Condition}
    (standing : conditions.find? isTracked = some condition) (present : condition.status ≠ .isFalse) :
    ConditionUpdate.applyTo? ⟨.isFalse, settledReason, ""⟩ now conditions = some (retire now conditions) := by
  induction conditions with
  | nil => cases standing
  | cons first rest ih =>
    unfold ConditionUpdate.applyTo? retire
    by_cases tracked : first.isTracked = true
    · rw [List.find?_cons_of_pos tracked] at standing
      cases standing
      rw [if_pos tracked, if_pos tracked, if_neg present]
    · rw [List.find?_cons_of_neg tracked] at standing
      rw [if_neg tracked, if_neg tracked, ih standing]
      rfl

theorem past_of_retire {now : Timestamp} {conditions : List Condition} {condition : Condition}
    (found : (retire now conditions).find? isTracked = some condition) : condition.status = .isFalse := by
  induction conditions with
  | nil => cases found
  | cons first rest ih =>
    unfold retire at found
    by_cases tracked : first.isTracked = true
    · rw [if_pos tracked] at found
      by_cases past : first.status = .isFalse
      · rw [if_pos past, List.find?_cons_of_pos tracked] at found
        cases found
        exact past
      · have revised : (ConditionUpdate.revise ⟨.isFalse, settledReason, ""⟩ now first).isTracked = true := tracked
        rw [if_neg past, List.find?_cons_of_pos revised] at found
        cases found
        rfl
    · rw [if_neg tracked, List.find?_cons_of_neg tracked] at found
      exact ih found

theorem filter_retire (now : Timestamp) (conditions : List Condition) :
    (retire now conditions).filter (fun condition => !condition.isTracked) =
      conditions.filter fun condition => !condition.isTracked := by
  induction conditions with
  | nil => rfl
  | cons first rest ih =>
    unfold retire
    by_cases tracked : first.isTracked = true
    · have revised : (if first.status = .isFalse then first
          else ConditionUpdate.revise ⟨.isFalse, settledReason, ""⟩ now first).isTracked = true := by
        split <;> exact tracked
      rw [if_pos tracked, List.filter_cons_of_neg (by simp [revised]), List.filter_cons_of_neg (by simp [tracked])]
    · rw [if_neg tracked, List.filter_cons_of_pos (by simpa using tracked),
        List.filter_cons_of_pos (by simpa using tracked), ih]

end Condition

namespace ClaimStatus

def opened (status : ClaimStatus) : ClaimStatus := { status with conditions := some (status.conditions.getD []) }

theorem opened_of_isSome {status : ClaimStatus} (opened : status.conditions.isSome = true) : status.opened = status := by
  obtain ⟨phase, conditions⟩ := status
  cases conditions with
  | none => cases opened
  | some conditions => rfl

def entering (target : ClaimPhase) (status : ClaimStatus) : ClaimStatus :=
  if target.canFollow status.phase then { status with phase := some target } else status

def retired (now : Timestamp) (status : ClaimStatus) : ClaimStatus :=
  { status with conditions := status.conditions.map (Condition.retire now) }

theorem retired_of_past {status : ClaimStatus}
    (past : ∀ condition, status.errorCondition? = some condition → condition.status = .isFalse) (now : Timestamp) :
    status.retired now = status := by
  obtain ⟨phase, conditions⟩ := status
  cases conditions with
  | none => rfl
  | some conditions =>
    have same : Condition.retire now conditions = conditions := Condition.retire_of_past past
    rw [retired, Option.map_some, same]

theorem update?_of_standing {status : ClaimStatus} {condition : Condition}
    (standing : status.errorCondition? = some condition) (present : condition.status ≠ .isFalse) (now : Timestamp) :
    status.update? ⟨.isFalse, settledReason, ""⟩ now = some (status.retired now) := by
  obtain ⟨phase, conditions⟩ := status
  cases conditions with
  | none => cases standing
  | some conditions =>
    have applied : ConditionUpdate.applyTo? ⟨.isFalse, settledReason, ""⟩ now conditions =
        some (Condition.retire now conditions) := Condition.applyTo?_of_standing standing present
    rw [update?, Option.getD_some, applied]
    rfl

def turned (status : ClaimStatus) : Step → ClaimStatus
  | .conditions => status.opened
  | .pendingPhase => status.entering .pending
  | .pendingProjectPhase => status.entering .pendingProject
  | _ => status

/-- The status after a pass that ended at this step, or at none. -/
def advanced (status : ClaimStatus) (now : Timestamp) : Option Step → ClaimStatus
  | some .conditions => status.opened
  | some _ => status.opened.entering .pending
  | none => ((status.opened.entering .pending).entering .pendingProject).retired now

/-- A pass that ended early has taken nothing away from a later one. -/
theorem advanced_advanced (status : ClaimStatus) (now now' : Timestamp) (step : Step) :
    (status.advanced now (some step)).advanced now' none = status.advanced now' none := by
  obtain ⟨phase, conditions⟩ := status
  cases conditions <;> cases phase with
  | none => cases step <;> rfl
  | some phase => cases phase <;> cases step <;> rfl

/-- A claim that may still be moved is now waiting for its project; the others stay in their phases. -/
def restingPhase : Option ClaimPhase → Option ClaimPhase
  | none | some .pending | some .pendingProject => some .pendingProject
  | phase => phase

theorem advanced_none (status : ClaimStatus) (now : Timestamp) : status.advanced now none =
    { phase := restingPhase status.phase,
      conditions := some (Condition.retire now (status.conditions.getD [])) } := by
  obtain ⟨phase, conditions⟩ := status
  cases phase with
  | none => rfl
  | some phase => cases phase <;> rfl

end ClaimStatus

namespace Pass

open Operation Pairing

/-- The claim is stored as the pair has it, nobody has asked for its deletion, and this is its status. -/
structure Standing (key : ObjectKey) (status : ClaimStatus) (pairing : Pairing) (contents : Contents) : Prop where
  current : pairing.Current contents
  live : pairing.claim.isLeaving = false
  key : pairing.claim.key = key
  status : pairing.claim.status = status

variable {key : ObjectKey} {status : ClaimStatus} {pairing : Pairing} {contents : Contents}

theorem Standing.write (standing : Standing key status pairing contents) {changed : Claim}
    (own : changed.key = pairing.claim.key) (live : changed.isLeaving = pairing.claim.isLeaving) :
    Standing key changed.status (pairing.holding changed) (contents.set .claim pairing.claim.key (some changed)) where
  current := by
    unfold Current
    rw [show (pairing.holding changed).claim.key = pairing.claim.key from own, Contents.set_self]
    rfl
  live := live.trans standing.live
  key := own.trans standing.key
  status := rfl

theorem Standing.finding (standing : Standing key status pairing contents) (found : Option Reference) :
    Standing key status (pairing.finding found) contents :=
  ⟨standing.current, standing.live, standing.key, standing.status⟩

theorem Standing.create (standing : Standing key status pairing contents) (reference : Reference) (place : ObjectKey)
    (entry : Option Reference) :
    Standing key status { pairing with reference := reference, found := none } (contents.set .reference place entry) where
  current := by
    unfold Current
    rw [Contents.set_reference_claim]
    exact standing.current
  live := standing.live
  key := standing.key
  status := standing.status

def Turned (key : ObjectKey) (after : ClaimStatus) (outcome : Except Failure Change) (pairing : Pairing)
    (contents : Contents) : Prop :=
  (∃ change, outcome = .ok change) ∧ Standing key after pairing contents

/-- An operation that goes through, and turns the status in this way whether it writes or not. -/
def Turns (operation : Operation Change) (turn : ClaimStatus → ClaimStatus) : Prop :=
  ∀ {key status pairing contents}, Standing key status pairing contents →
    operation.Ensures .undisturbed (Turned key (turn status)) pairing contents

theorem Standing.unchanged {after : ClaimStatus} (standing : Standing key status pairing contents)
    (same : after = status) : Turned key after (.ok .unchanged) pairing contents :=
  ⟨⟨_, rfl⟩, same ▸ standing⟩

theorem Standing.saves {after : ClaimStatus} (standing : Standing key status pairing contents) {changed : Claim}
    (own : changed.key = pairing.claim.key) (live : changed.isLeaving = pairing.claim.isLeaving)
    (same : after = changed.status) :
    Saves (fun _ => False) (fun _ => True) (Turned key after) pairing contents changed where
  written fresh := by
    subst same
    have later : Standing key (changed.withVersion (some fresh)).status _ _ := standing.write own live
    exact ⟨trivial, ⟨_, rfl⟩, later⟩
  failed _ injects := injects.elim

theorem turns_openConditions : Turns openConditions (·.turned .conditions) := by
  intro key status pairing contents standing
  obtain rfl := standing.status
  refine ensures_openConditions standing.current ?_ ?_
  · exact fun opened => standing.unchanged (ClaimStatus.opened_of_isSome opened)
  · intro closed
    exact standing.saves rfl rfl (by simp [ClaimStatus.turned, ClaimStatus.opened, closed, Object.opened])

theorem turns_enterPhase (target : ClaimPhase) : Turns (enterPhase target) (·.entering target) := by
  intro key status pairing contents standing
  obtain rfl := standing.status
  refine ensures_enterPhase standing.current target ?_ ?_
  · intro barred
    exact standing.unchanged (by simp [ClaimStatus.entering, barred])
  · intro follows
    exact standing.saves rfl rfl (by simp [ClaimStatus.entering, follows, Object.inPhase])

theorem turns_linkReference : Turns linkReference id := by
  intro key status pairing contents standing
  obtain rfl := standing.status
  refine ensures_linkReference standing.current standing.live ?_ ?_
  · exact fun _ => standing.unchanged rfl
  · exact fun _ => standing.saves rfl rfl rfl

theorem turns_holdClaim : Turns holdClaim id := by
  intro key status pairing contents standing
  obtain rfl := standing.status
  refine ensures_holdClaim standing.current ?_ ?_
  · exact fun _ => standing.unchanged rfl
  · exact fun _ => standing.saves rfl rfl rfl

theorem turns_provideReference : Turns provideReference id := by
  intro key status pairing contents standing
  refine ensures_provideReference nofun trivial ?_ ?_ nofun
  · exact fun reference _ => (standing.finding (some reference)).unchanged rfl
  · exact fun _ fresh => ⟨trivial, ⟨_, rfl⟩, standing.create _ _ _⟩

theorem turns_stages : ∀ stage ∈ stages, Turns stage.operation (·.turned stage.step) := by
  intro stage member
  simp only [stages, List.mem_cons, List.not_mem_nil, or_false] at member
  obtain rfl | rfl | rfl | rfl | rfl | rfl := member
  · exact turns_openConditions
  · exact turns_enterPhase .pending
  · exact turns_linkReference
  · exact turns_holdClaim
  · exact turns_provideReference
  · exact turns_enterPhase .pendingProject

inductive Walk : List Stage → ClaimStatus → Option Step → ClaimStatus → Prop
  | through (status : ClaimStatus) : Walk [] status none status
  | ends {stage : Stage} (rest : List Stage) (status : ClaimStatus) : stage.endsPass = true →
    Walk (stage :: rest) status (some stage.step) (status.turned stage.step)
  | goesOn {stage : Stage} {rest : List Stage} {status after : ClaimStatus} {stop : Option Step} :
    Walk rest (status.turned stage.step) stop after → Walk (stage :: rest) status stop after

theorem ensures_walk {list : List Stage} (turns : ∀ stage ∈ list, Turns stage.operation (·.turned stage.step))
    (standing : Standing key status pairing contents) :
    (runStages list).Ensures .undisturbed (fun outcome pairing contents => ∃ stop after,
      outcome = .ok stop ∧ Walk list status stop after ∧ Standing key after pairing contents) pairing contents := by
  induction list generalizing status pairing contents with
  | nil => exact ⟨none, status, rfl, .through status, standing⟩
  | cons stage rest ih =>
    refine (ensures_runStages_cons stage.step stage.operation stage.endsPass rest).mpr ?_
    refine (turns stage List.mem_cons_self standing).mono ?_
    rintro outcome pairing contents ⟨⟨change, rfl⟩, turned⟩
    simp only [attempting, continuing]
    split
    · next ended =>
      exact ⟨_, _, rfl, .ends rest status (Bool.and_eq_true_iff.mp ended).1, turned⟩
    · have later := ih (fun other member => turns other (List.mem_cons_of_mem _ member)) turned
      refine later.mono ?_
      rintro outcome pairing contents ⟨stop, after, ended, walk, last⟩
      exact ⟨stop, after, ended, .goesOn walk, last⟩

theorem Walk.eq_advanced {after : ClaimStatus} {stop : Option Step} (walk : Walk stages status stop after) :
    (∃ step, stop = some step ∧ ∀ now, after = status.advanced now (some step)) ∨
      stop = none ∧ after = (status.opened.entering .pending).entering .pendingProject := by
  -- One stage after the other, with the three that end a pass on the way.
  cases walk with
  | ends _ _ ended => exact .inl ⟨_, rfl, fun _ => rfl⟩
  | goesOn walk =>
  cases walk with
  | ends _ _ ended => cases ended
  | goesOn walk =>
  cases walk with
  | ends _ _ ended => exact .inl ⟨_, rfl, fun _ => rfl⟩
  | goesOn walk =>
  cases walk with
  | ends _ _ ended => exact .inl ⟨_, rfl, fun _ => rfl⟩
  | goesOn walk =>
  cases walk with
  | ends _ _ ended => cases ended
  | goesOn walk =>
  cases walk with
  | ends _ _ ended => cases ended
  | goesOn walk =>
  cases walk with
  | through => exact .inr ⟨rfl, rfl⟩

theorem ensures_retire (standing : Standing key status pairing contents) :
    retireError.Ensures .undisturbed (fun outcome _ contents => (∃ change, outcome = .ok change) ∧
      ∃ (later : Claim) (now : Timestamp), contents .claim key = some later ∧ later.status = status.retired now)
      pairing contents := by
  obtain rfl := standing.status
  obtain rfl := standing.key
  have stays : (∀ condition, pairing.claim.status.errorCondition? = some condition → condition.status = .isFalse) →
      ∃ (later : Claim) (now : Timestamp), contents .claim pairing.claim.key = some later ∧
        later.status = pairing.claim.status.retired now :=
    fun past => ⟨pairing.claim, .epoch, standing.current, (ClaimStatus.retired_of_past past .epoch).symm⟩
  simp only [retireError, currentClaim, ensures_bind, ensures_get, ensures_pure]
  cases error : pairing.claim.status.errorCondition? with
  | none =>
    refine ⟨⟨_, rfl⟩, stays fun other found => ?_⟩
    cases error.symm.trans found
  | some condition =>
    by_cases past : condition.status = .isFalse
    · simp only [past, ↓reduceIte]
      refine ⟨⟨_, rfl⟩, stays fun other found => ?_⟩
      cases error.symm.trans found
      exact past
    · simp only [past, ↓reduceIte]
      refine ensures_recordCondition _ standing.current rfl ?_ ?_ ?_
      · intro now nothing
        rw [ClaimStatus.update?_of_standing error past now] at nothing
        cases nothing
      · intro now status written fresh
        rw [ClaimStatus.update?_of_standing error past now] at written
        cases written
        exact ⟨trivial, ⟨_, rfl⟩, _, now, Contents.set_self _ _ _ _, rfl⟩
      · exact fun _ _ _ _ injects => injects.elim

/-- The claim is stored with the status that a pass with this result leaves it with. -/
def Advances (claim : Claim) (result : PassResult) (after : Contents) : Prop :=
  ∃ (later : Claim) (now : Timestamp), after .claim claim.key = some later ∧
    later.status = claim.status.advanced now result.step

theorem ensures_runLive_advances {before : Contents} {claim : Claim} (space : String)
    (found : before .claim claim.key = some claim) (live : claim.isLeaving = false) :
    runLive.Ensures .undisturbed
      (fun outcome _ after => ∃ result, outcome = .ok result ∧ Advances claim result after) (.of claim space) before := by
  have standing : Standing claim.key claim.status (.of claim space) before := ⟨found, live, rfl, rfl⟩
  simp only [runLive, ensures_bind]
  refine (ensures_walk turns_stages standing).mono ?_
  rintro outcome pairing contents ⟨stop, status, rfl, walk, standing⟩
  obtain ⟨step, rfl, same⟩ | ⟨rfl, same⟩ := walk.eq_advanced
  · have stored := standing.current
    rw [Current, standing.key] at stored
    exact ⟨_, rfl, pairing.claim, .epoch, stored, standing.status.trans (same .epoch)⟩
  · simp only [ensures_bind, ensures_discard, ensures_attempt, ensures_pure]
    refine (ensures_retire standing).mono ?_
    rintro outcome pairing contents ⟨⟨change, rfl⟩, later, now, stored, retired⟩
    exact ⟨_, rfl, later, now, stored, retired.trans (by rw [same]; rfl)⟩

theorem ensures_run_advances {before : Contents} {claim : Claim} (space : String)
    (found : before .claim claim.key = some claim) (live : claim.isLeaving = false) :
    run.Ensures .undisturbed
      (fun outcome _ after => ∃ result, outcome = .ok result ∧ Advances claim result after) (.of claim space) before := by
  simp only [run, currentClaim, ensures_bind, ensures_get, ensures_pure]
  rw [if_neg (show ¬(Pairing.of claim space).claim.isLeaving = true by simp [Pairing.of, live])]
  exact ensures_runLive_advances space found live

end Pass

theorem Workflow.ensures_reconcile_advances {before : Contents} {claim : Claim} (space : String)
    (found : before .claim claim.key = some claim) (live : claim.isLeaving = false) :
    (reconcile space claim.key).Ensures .undisturbed (fun verdict after => ∃ result,
      verdict = ⟨.ok (some result), true⟩ ∧ Pass.Advances claim result after) before := by
  unfold reconcile
  rw [Action.ensures_bind, Regime.undisturbed, Action.ensures_ask_alone]
  refine ⟨fun fresh now => ⟨trivial, ?_⟩, fun _ injects => injects.elim⟩
  rw [Contents.serve_get_of_found found, Action.ensures_bind]
  refine Action.Ensures.mono (Pass.ensures_run_advances space found live) ?_
  rintro ⟨outcome, pairing⟩ after ⟨result, rfl, later⟩
  exact ⟨result, rfl, later⟩

end ClaimOperator

import ClaimOperator.Proofs.Interleaving.Clients
import ClaimOperator.Proofs.Reconcile.Stages

/-! The requests of a pass, among other clients.

Through all stages a pass over a live claim keeps what it knows of the claim, so that an
update never takes the marker off, and the reference is created only for a claim that
was once seen with the marker. A pass over a doomed claim takes the marker off only after
it has found nothing under the derived key. Where a request fails, only the status is
written, which changes nothing that others count on.
-/

set_option autoImplicit false

namespace ClaimOperator

variable {space : String} {prompt : Prop} {key : ObjectKey} {store : Tables} {α β : Type}

def Ending (space : String) (good : α → Pairing → Tables → Prop) : Except Failure α → Pairing → Tables → Prop
  | .ok value, pairing, store => good value pairing store
  | .error _, _, store => store.Filed space

theorem ending_filed {outcome : Except Failure α} {pairing : Pairing} :
    Ending space (fun _ _ after => after.Filed space) outcome pairing store ↔ store.Filed space := by
  cases outcome <;> rfl

/-- What a pass counts on: it knows the claim, and the reference that it is to have. -/
structure Engaged (space : String) (key : ObjectKey) (leaving : Bool) (pairing : Pairing) (store : Tables) : Prop where
  filed : store.Filed space
  acquainted : Acquainted key pairing.claim store
  leaving : pairing.claim.isLeaving = leaving
  link : pairing.reference.spec.claimLink = key
  place : pairing.reference.key = key.referenceKey space

namespace Pairing

open Operation

variable {pairing : Pairing} {leaving : Bool}

theorem ensures_saveStatus (engaged : Engaged space key leaving pairing store) (status : ClaimStatus) :
    writeStatus.Ensures (.among space prompt) (Ending space fun _ => Engaged space key leaving)
      (pairing.holding (pairing.claim.withStatus status)) store := by
  simp only [writeStatus, currentClaim, changeClaim, ensures_bind, ensures_get, ensures_pure, ensures_modify,
    ensures_notingFailure]
  refine ensures_ask_among (.updateStatus _) engaged.filed ?_
  intro met drifts filed
  refine ⟨trivial, fun now left => ?_⟩
  have known := engaged.acquainted.drifts drifts
  cases answered : (Tables.serve _ now met).1 with
  | error failure => exact left
  | ok version =>
    obtain ⟨stored, found, matched, after⟩ := Tables.find?_of_updateStatus answered
    have own : (pairing.holding (pairing.claim.withStatus status)).claim.key = key := known.own
    rw [own] at found after
    -- The write went through, so it met the very claim that the snapshot was taken of.
    obtain rfl := known.eq_of_match found rfl matched
    exact ⟨left, .of_found left.versioned after, engaged.leaving, engaged.link, engaged.place⟩

theorem ensures_saveClaim (engaged : Engaged space key false pairing store) (changed : Claim)
    (own : changed.key = pairing.claim.key) (version : changed.metadata.version = pairing.claim.metadata.version)
    (revised : WriteRules.revise pairing.claim changed = changed)
    (kept : pairing.claim.hasMarker = true → changed.hasMarker = true) :
    writeClaim.Ensures (.among space prompt)
      (Ending space fun _ pairing' after =>
        Engaged space key false pairing' after ∧ pairing'.claim.hasMarker = changed.hasMarker)
      (pairing.holding changed) store := by
  simp only [writeClaim, currentClaim, changeClaim, ensures_bind, ensures_get, ensures_pure, ensures_modify]
  refine ensures_ask_among (.update _) engaged.filed ?_
  intro met drifts filed
  have known := engaged.acquainted.drifts drifts
  have place : (pairing.holding changed).claim.key = key := own.trans known.own
  have live : changed.isLeaving = false := by
    rw [← revised]
    exact engaged.leaving
  constructor
  · intro stored found matched marked
    rw [place] at found
    obtain rfl := known.eq_of_match found version matched
    exact .inl (kept marked)
  · intro now left
    cases answered : (Tables.serve _ now met).1 with
    | error failure => exact left
    | ok version' =>
      obtain ⟨stored, found, matched, after⟩ := Tables.find?_of_update answered
      rw [place] at found after
      obtain rfl := known.eq_of_match found version matched
      have stays : WriteRules.isReleased changed = false := by simp only [WriteRules.isReleased, live, Bool.false_and]
      have shown : (pairing.holding changed).claim = changed := rfl
      rw [shown, revised] at after
      exact ⟨⟨left, .of_found left.versioned (after stays), live, engaged.link, engaged.place⟩, rfl⟩

theorem ensures_openConditions_among (engaged : Engaged space key leaving pairing store) :
    openConditions.Ensures (.among space prompt) (Ending space fun _ => Engaged space key leaving) pairing store := by
  simp only [openConditions, currentClaim, changeClaim, ensures_bind, ensures_get, ensures_pure]
  split
  · exact engaged
  · simp only [ensures_bind, ensures_modify]
    refine (ensures_saveStatus engaged { pairing.claim.status with conditions := some [] }).mono ?_
    intro outcome pairing store saved
    cases outcome <;> exact saved

theorem ensures_enterPhase_among (target : ClaimPhase) (engaged : Engaged space key leaving pairing store) :
    (enterPhase target).Ensures (.among space prompt) (Ending space fun _ => Engaged space key leaving)
      pairing store := by
  simp only [enterPhase, currentClaim, changeClaim, note, ensures_bind, ensures_get, ensures_pure]
  split
  · exact engaged
  · simp only [ensures_bind, ensures_note, ensures_modify]
    refine (ensures_saveStatus engaged { pairing.claim.status with phase := some target }).mono ?_
    intro outcome pairing store saved
    cases outcome <;> exact saved

theorem ensures_linkReference_among (engaged : Engaged space key false pairing store) :
    linkReference.Ensures (.among space prompt) (Ending space fun _ => Engaged space key false) pairing store := by
  simp only [linkReference, changeClaim, note, ensures_bind, ensures_get]
  split
  · exact engaged
  · simp only [ensures_bind, ensures_note, ensures_modify]
    refine (ensures_saveClaim engaged (pairing.claim.linkedTo pairing.referenceKey) rfl rfl rfl id).mono ?_
    intro outcome pairing store saved
    cases outcome with
    | ok _ => exact saved.1
    | error failure => exact saved

theorem ensures_holdClaim_among (engaged : Engaged space key false pairing store) :
    holdClaim.Ensures (.among space prompt)
      (Ending space fun _ pairing' after => Engaged space key false pairing' after ∧ pairing'.claim.hasMarker = true)
      pairing store := by
  simp only [holdClaim, currentClaim, changeClaim, note, ensures_bind, ensures_get, ensures_pure]
  split
  · next marked => exact ⟨engaged, marked⟩
  · simp only [ensures_bind, ensures_note, ensures_modify, ensures_notingFailure]
    have marked := Object.hasMarker_addMarker pairing.claim
    refine (ensures_saveClaim engaged pairing.claim.addMarker rfl rfl rfl fun _ => marked).mono ?_
    intro outcome pairing store saved
    cases outcome with
    | ok _ => exact ⟨saved.1, saved.2.trans marked⟩
    | error failure => exact saved

theorem ensures_findReference_among {post : Except Failure Bool → Pairing → Tables → Prop}
    (filed : store.Filed space)
    (looked : ∀ met, Tables.Drifts space prompt store met → met.Filed space →
      post (.ok (met.find? .reference pairing.referenceKey).isSome)
        (pairing.finding (met.find? .reference pairing.referenceKey)) met) :
    findReference.Ensures (.among space prompt) post pairing store := by
  simp only [findReference, ensures_bind, ensures_get, ensures_tryCatch, ensures_map]
  refine ensures_ask_among (.get .reference pairing.referenceKey) filed ?_
  intro met drifts filed
  refine ⟨trivial, fun now _ => ?_⟩
  have ends := looked met drifts filed
  rw [Tables.serve_get]
  cases found : met.find? .reference pairing.referenceKey with
  | some reference =>
    rw [found] at ends
    exact ends
  | none =>
    rw [found] at ends
    exact ends

/-- The reference is created for a claim that is guarded, since it was once seen with the marker. -/
theorem ensures_provideReference_among (engaged : Engaged space key leaving pairing store)
    (marked : pairing.claim.hasMarker = true) :
    provideReference.Ensures (.among space prompt) (Ending space fun _ => Engaged space key leaving)
      pairing store := by
  simp only [provideReference, ensures_bind]
  refine ensures_findReference_among engaged.filed ?_
  intro met drifts filed
  have known := engaged.acquainted.drifts drifts
  cases found : met.find? .reference pairing.referenceKey with
  | some reference => exact ⟨filed, known, engaged.leaving, engaged.link, engaged.place⟩
  | none =>
    simp only [Option.isSome_none, Bool.false_eq_true, ↓reduceIte, note, ensures_bind, ensures_get, ensures_note,
      ensures_modify, ensures_pure]
    refine ensures_ask_among (.create pairing.reference) filed ?_
    intro met' drifts' filed'
    have known' := known.drifts drifts'
    have proper : StoreRequest.Proper space prompt met'.find? (.create pairing.reference) := by
      refine ⟨engaged.place.trans (congrArg (·.referenceKey space) engaged.link.symm), ?_⟩
      exact engaged.link.symm ▸ known'.guarded marked
    refine ⟨proper, fun now left => ?_⟩
    have moves := filed'.serve proper now
    cases (Tables.serve (.create pairing.reference) now met').1 with
    | error failure => exact left
    | ok version => exact ⟨left, known'.moves moves, engaged.leaving, engaged.link, engaged.place⟩

theorem ensures_releaseClaim_among (engaged : Engaged space key true pairing store)
    (unlinked : prompt → Contents.Unlinked store.find? key) :
    releaseClaim.Ensures (.among space prompt) (fun _ _ after => after.Filed space) pairing store := by
  simp only [releaseClaim, writeClaim, currentClaim, changeClaim, note, ensures_bind, ensures_get, ensures_pure]
  split
  · exact engaged.filed
  · simp only [ensures_bind, ensures_note, ensures_modify, ensures_get, ensures_pure]
    refine ensures_ask_among (.update pairing.claim.removeMarker) engaged.filed ?_
    intro met drifts filed
    have known := engaged.acquainted.drifts drifts
    have doomed := engaged.acquainted.doomed engaged.leaving
    have own : pairing.claim.removeMarker.key = key := known.own
    constructor
    · intro stored found matched _
      rw [own] at found ⊢
      obtain rfl := known.eq_of_match found rfl matched
      exact .inr ⟨engaged.leaving, fun promptly => (drifts.unlinked promptly doomed (unlinked promptly)).2⟩
    · intro now left
      cases (Tables.serve (.update pairing.claim.removeMarker) now met).1 <;> exact left

theorem ensures_discardReference_among (filed : store.Filed space) :
    discardReference.Ensures (.among space prompt) (fun _ _ after => after.Filed space) pairing store := by
  simp only [discardReference, note, ensures_bind, ensures_get, ensures_note, ensures_tryCatch]
  refine ensures_ask_among (.delete (pairing.found.getD pairing.reference)) filed ?_
  intro met _ _
  refine ⟨trivial, fun now left => ?_⟩
  cases (Tables.serve (.delete (pairing.found.getD pairing.reference)) now met).1 with
  | ok _ => exact left
  | error failure =>
    cases failure with
    | store error =>
      by_cases gone : error.category = .notFound
      · simp only [gone, ↓reduceIte, ensures_note]
        exact left
      · simp only [gone, ↓reduceIte, ensures_throw]
        exact left
    | _ => exact left

theorem ensures_advanceDeletion_among (engaged : Engaged space key true pairing store) :
    advanceDeletion.Ensures (.among space prompt) (fun _ _ after => after.Filed space) pairing store := by
  simp only [advanceDeletion, ensures_bind]
  refine ensures_findReference_among engaged.filed ?_
  intro met drifts filed
  cases found : met.find? .reference pairing.referenceKey with
  | some reference =>
    simp only [Option.isSome_some, ↓reduceIte, ensures_bind, ensures_get]
    split
    · exact filed
    · simp only [ensures_bind]
      refine (ensures_discardReference_among filed).mono ?_
      intro outcome pairing store filed
      cases outcome <;> exact filed
  | none =>
    simp only [Option.isSome_none, Bool.false_eq_true, ↓reduceIte]
    have known := engaged.acquainted.drifts drifts
    -- A reference that links to the claim would lie under the derived key, where nothing was found.
    refine ensures_releaseClaim_among ⟨filed, known, engaged.leaving, engaged.link, engaged.place⟩ ?_
    rintro _ place reference stored rfl
    have derived := filed.derived place reference stored
    rw [derived, ← engaged.place] at stored
    cases found.symm.trans stored

theorem ensures_recordCondition_among (update : ConditionUpdate) (filed : store.Filed space) :
    (recordCondition update).Ensures (.among space prompt) (fun _ _ after => after.Filed space) pairing store := by
  simp only [recordCondition, currentClaim, changeClaim, ensures_bind, ensures_clock, ensures_get, ensures_pure]
  intro now
  cases pairing.claim.status.update? update now with
  | none => exact filed
  | some status =>
    simp only [writeStatus, currentClaim, changeClaim, ensures_bind, ensures_get, ensures_pure, ensures_modify,
      ensures_notingFailure]
    refine ensures_ask_among (.updateStatus _) filed ?_
    intro met _ _
    refine ⟨trivial, fun now left => ?_⟩
    cases (Tables.serve _ now met).1 <;> exact left

end Pairing

namespace Pass

open Operation Pairing

variable {pairing : Pairing}

theorem ensures_onStoreError_among {post : Except Failure Change → Pairing → Tables → Prop} (step : Step)
    (records : Bool) (error : StoreError) (filed : store.Filed space)
    (ends : ∀ failure pairing' after, after.Filed space → post (.error failure) pairing' after) :
    (onStoreError step records error).Ensures (.among space prompt) post pairing store := by
  cases records with
  | false => exact ensures_onStoreError_unrecorded step error (ends _ _ _ filed)
  | true =>
    simp only [onStoreError, noteOnClaim, note, currentClaim, ensures_bind, ensures_get, ensures_pure, ensures_note,
      ensures_tryCatch, ensures_discard, ensures_throw, ↓reduceIte]
    refine (ensures_recordCondition_among _ filed).mono ?_
    intro outcome pairing store filed
    cases outcome with
    | ok change => exact ends _ _ _ filed
    | error failure => cases failure <;> exact ends _ _ _ filed

theorem ensures_attempt_among {good : Change → Pairing → Tables → Prop} {operation : Operation Change} (step : Step)
    (records : Bool) (ensures : operation.Ensures (.among space prompt) (Ending space good) pairing store) :
    (attempt step records operation).Ensures (.among space prompt) (Ending space good) pairing store := by
  rw [ensures_attempt]
  refine ensures.mono ?_
  intro outcome pairing store ended
  cases outcome with
  | ok change => exact ended
  | error failure =>
    cases failure with
    | store error =>
      rw [attempting_store]
      exact ensures_onStoreError_among step records error ended fun _ _ _ filed => filed
    | _ => exact ended

theorem ensures_attempt_filed {operation : Operation Change} (step : Step) (records : Bool)
    (ensures : operation.Ensures (.among space prompt) (fun _ _ after => after.Filed space) pairing store) :
    (attempt step records operation).Ensures (.among space prompt) (fun _ _ after => after.Filed space)
      pairing store := by
  have ending := ensures_attempt_among step records (ensures.mono fun _ _ _ => ending_filed.mpr)
  exact ending.mono fun _ _ _ => ending_filed.mp

theorem ensures_retireError_among (filed : store.Filed space) :
    retireError.Ensures (.among space prompt) (fun _ _ after => after.Filed space) pairing store := by
  simp only [retireError, currentClaim, ensures_bind, ensures_get, ensures_pure]
  cases pairing.claim.status.errorCondition? with
  | none => exact filed
  | some condition =>
    dsimp only
    split
    · exact filed
    · exact ensures_recordCondition_among _ filed

theorem ensures_stage_among {good : Change → Pairing → Tables → Prop} {operation : Operation Change} {step : Step}
    {endsPass : Bool} {rest : List Stage}
    (first : operation.Ensures (.among space prompt) (Ending space good) pairing store)
    (filed : ∀ change pairing store, good change pairing store → store.Filed space)
    (next : ∀ change pairing store, good change pairing store →
      (runStages rest).Ensures (.among space prompt) (fun _ _ after => after.Filed space) pairing store) :
    (runStages (⟨step, operation, endsPass⟩ :: rest)).Ensures (.among space prompt)
      (fun _ _ after => after.Filed space) pairing store := by
  simp only [runStages, ensures_bind]
  refine (ensures_attempt_among step true first).mono ?_
  intro outcome pairing store ended
  cases outcome with
  | error failure => exact ended
  | ok change =>
    dsimp only
    split
    · exact filed change pairing store ended
    · exact next change pairing store ended

theorem ensures_stages_among {key : ObjectKey} (engaged : Engaged space key false pairing store) :
    (runStages stages).Ensures (.among space prompt) (fun _ _ after => after.Filed space) pairing store := by
  -- Only the fourth stage adds to what is known, and only the fifth needs it: that the claim has the marker.
  refine ensures_stage_among (ensures_openConditions_among engaged) (fun _ _ _ => Engaged.filed) ?_
  intro _ pairing store engaged
  refine ensures_stage_among (ensures_enterPhase_among .pending engaged) (fun _ _ _ => Engaged.filed) ?_
  intro _ pairing store engaged
  refine ensures_stage_among (ensures_linkReference_among engaged) (fun _ _ _ => Engaged.filed) ?_
  intro _ pairing store engaged
  refine ensures_stage_among (ensures_holdClaim_among engaged) (fun _ _ _ held => held.1.filed) ?_
  intro _ pairing store ⟨engaged, marked⟩
  refine ensures_stage_among (ensures_provideReference_among engaged marked) (fun _ _ _ => Engaged.filed) ?_
  intro _ pairing store engaged
  refine ensures_stage_among (ensures_enterPhase_among .pendingProject engaged) (fun _ _ _ => Engaged.filed) ?_
  exact fun _ _ _ engaged => engaged.filed

theorem ensures_run_among {key : ObjectKey} {leaving : Bool} (engaged : Engaged space key leaving pairing store) :
    run.Ensures (.among space prompt) (fun _ _ after => after.Filed space) pairing store := by
  simp only [run, currentClaim, ensures_bind, ensures_get, ensures_pure]
  rw [engaged.leaving]
  cases leaving with
  | false =>
    simp only [Bool.false_eq_true, ↓reduceIte, runLive, ensures_bind]
    refine (ensures_stages_among engaged).mono ?_
    intro outcome pairing store filed
    match outcome with
    | .error failure => exact filed
    | .ok (some step) => exact filed
    | .ok none =>
      simp only [ensures_bind, ensures_discard]
      refine (ensures_attempt_filed .recovery false (ensures_retireError_among filed)).mono ?_
      intro outcome pairing store filed
      cases outcome <;> exact filed
  | true =>
    simp only [↓reduceIte, runDeleted, currentClaim, note, ensures_bind, ensures_discard]
    refine (ensures_attempt_filed .deletion false (ensures_advanceDeletion_among engaged)).mono ?_
    intro outcome pairing store filed
    cases outcome with
    | error failure => exact filed
    | ok change =>
      simp only [Except.map, ensures_get, ensures_pure]
      split
      · exact filed
      · simp only [ensures_bind, ensures_note]
        exact filed

end Pass

namespace Workflow

/-- A pass keeps to what others count on, and counts on no more than they keep. -/
theorem ensures_reconcile_among (filed : store.Filed space) (key : ObjectKey) :
    (reconcile space key).Ensures (.among space prompt) (fun _ _ => True) store := by
  unfold reconcile
  rw [Action.ensures_bind]
  refine Action.ensures_ask_among (.get .claim key) filed ?_
  intro met _ filed
  refine ⟨trivial, fun now _ => ?_⟩
  rw [Tables.serve_get]
  cases found : met.find? .claim key with
  | none =>
    simp only [StoreError.category, ↓reduceIte, note, Action.ensures_bind]
    trivial
  | some claim =>
    have acquainted := Acquainted.of_found filed.versioned found
    have engaged : Engaged space key claim.isLeaving (.of claim space) met :=
      ⟨filed, acquainted, rfl, acquainted.own, congrArg (·.referenceKey space) acquainted.own⟩
    rw [Action.ensures_bind]
    refine Action.Ensures.mono (Pass.ensures_run_among engaged) ?_
    rintro ⟨outcome, pairing⟩ after _
    cases outcome with
    | ok result => trivial
    | error failure => cases failure <;> trivial

theorem ensures_requestDeletion_among (filed : store.Filed space) (key : ObjectKey) :
    (requestDeletion key).Ensures (.among space prompt) (fun _ _ => True) store := by
  unfold requestDeletion
  rw [Action.ensures_bind]
  refine Action.ensures_ask_among (.get .claim key) filed ?_
  intro met _ filed
  refine ⟨trivial, fun now _ => ?_⟩
  rw [Tables.serve_get]
  cases found : met.find? .claim key with
  | none => trivial
  | some claim =>
    rw [Action.ensures_bind]
    refine Action.ensures_ask_among (.delete claim) filed ?_
    intro met _ _
    refine ⟨trivial, fun now _ => ?_⟩
    cases (Tables.serve (.delete claim) now met).1 <;> trivial

end Workflow

end ClaimOperator

import ClaimOperator.Proofs.Reconcile.LivePass
import ClaimOperator.Workflow

/-! What a whole pass can do to a local store that nobody else writes to.

A pass over a claim whose deletion is requested does one thing at most: it deletes the
reference that is stored under the key of the claim's own, or it takes the marker off
the claim when there is none. With what a pass over a live claim can do, this is all
that any pass does, from the read of the claim on.
-/

set_option autoImplicit false

namespace ClaimOperator

namespace Pass

open Operation Pairing

inductive Leaving (space : String) (before : Contents) (claim : Claim) : Contents → Prop where
  | unchanged : Leaving space before claim before
  | discarded {reference : Reference} {fresh : String} {now : Timestamp} :
    before .reference (claim.key.referenceKey space) = some reference → reference.isLeaving = false →
    Leaving space before claim (before.set .reference (claim.key.referenceKey space)
      ((WriteRules.mark? reference now).map (·.withVersion (some fresh))))
  | released {fresh : String} :
    before .reference (claim.key.referenceKey space) = none → claim.hasMarker = true →
    Leaving space before claim
      (before.set .claim claim.key (some (claim.removeMarker.withVersion (some fresh))))
  | removed :
    before .reference (claim.key.referenceKey space) = none → claim.hasMarker = true →
    WriteRules.isReleased claim.removeMarker = true →
    Leaving space before claim (before.set .claim claim.key none)

/-- The reference that belongs to the claim is deleted, marked only if something holds it. -/
def Discards (space : String) (before : Contents) (key : ObjectKey) (after : Contents) : Prop :=
  ∀ reference, before .reference (key.referenceKey space) = some reference → reference.isLeaving = false →
    ∃ (now : Timestamp) (fresh : String), after = before.set .reference (key.referenceKey space)
      ((WriteRules.mark? reference now).map (·.withVersion (some fresh)))

/-- How a pass over a claim whose deletion is requested ends. It fails only with an injected error; without one, a
stored reference is deleted. -/
structure LeavingEnd (injected : StoreError → Prop) (space : String) (before : Contents) (claim : Claim)
    (outcome : Except Failure PassResult) (after : Contents) : Prop where
  leaving : Leaving space before claim after
  step : ∀ result, outcome = .ok result → result.step = some .deletion
  failed : ∀ failure, outcome = .error failure → ∃ error, injected error ∧ failure = .store error
  discards : (∃ result, outcome = .ok result) → Discards space before claim.key after

variable {injected : StoreError → Prop} {space : String} {before : Contents} {claim : Claim}

theorem LeavingEnd.error {error : StoreError} (injects : injected error) :
    LeavingEnd injected space before claim (.error (.store error)) before :=
  ⟨.unchanged, nofun, (by rintro _ ⟨⟩; exact ⟨error, injects, rfl⟩), fun ⟨_, ended⟩ => nomatch ended⟩

theorem ensures_runDeleted (space : String) (found : before .claim claim.key = some claim) (keyed : before.Keyed)
    (genuine : ∀ error, injected error → error.category ≠ .notFound) :
    runDeleted.Ensures (.alone injected (Leaving space before claim))
      (fun outcome _ after => LeavingEnd injected space before claim outcome after) (.of claim space) before := by
  -- However far the deletion got, the pass ends by looking at the marker of its snapshot.
  have ends : ∀ (pairing : Pairing) (after : Contents), Leaving space before claim after →
      Discards space before claim.key after →
      (do
        let claim ← currentClaim
        if claim.hasMarker then return ⟨true, some .deletion⟩
        note .info <| claimTitle claim ++ " finalized"
        return ⟨false, some .deletion⟩ : Operation PassResult).Ensures (.alone injected (Leaving space before claim))
        (fun outcome _ after => LeavingEnd injected space before claim outcome after) pairing after := by
    intro pairing after leaving discards
    have ended : ∀ result, result.step = some .deletion →
        LeavingEnd injected space before claim (.ok result) after :=
      fun result step => ⟨leaving, (by rintro _ ⟨⟩; exact step), (by rintro _ ⟨⟩), fun _ => discards⟩
    simp only [currentClaim, note, ensures_bind, ensures_get, ensures_pure]
    split
    · exact ended _ rfl
    · simp only [ensures_bind, ensures_note, ensures_pure]
      exact ended _ rfl
  have discards_of_absent : ∀ after, before .reference (claim.key.referenceKey space) = none →
      Discards space before claim.key after := by
    intro after absent reference stored
    cases absent.symm.trans stored
  unfold runDeleted
  rw [ensures_bind, ensures_discard, ensures_attempt]
  refine ensures_advanceDeletion genuine .unchanged found ?_ ?_ ?_ ?_ ?_ ?_ ?_
  · exact fun reference stored => keyed .reference _ reference stored
  · intro reference stored leaving
    refine ends _ _ .unchanged ?_
    intro _ here live
    cases here.symm.trans stored
    cases live.symm.trans leaving
  · intro reference stored live fresh now
    refine ⟨.discarded stored live, ends _ _ (.discarded stored live) ?_⟩
    intro _ here _
    cases here.symm.trans stored
    exact ⟨now, fresh, rfl⟩
  · exact fun absent _ => ends _ _ .unchanged (discards_of_absent _ absent)
  · intro absent marked _
    constructor
    · exact fun fresh => ⟨.released absent marked, ends _ _ (.released absent marked) (discards_of_absent _ absent)⟩
    · intro error injects
      refine ⟨.unchanged, ?_⟩
      rw [attempting_store]
      exact ensures_onStoreError_unrecorded .deletion error (.error injects)
  · intro absent marked released
    have removed : Leaving space before claim _ := .removed absent marked released
    exact ⟨removed, ends _ _ removed (discards_of_absent _ absent)⟩
  · intro error injects pairing _
    rw [attempting_store]
    exact ensures_onStoreError_unrecorded .deletion error (.error injects)

inductive Leads (space : String) (key : ObjectKey) (before : Contents) : Contents → Prop where
  | idle : Leads space key before before
  | live {claim : Claim} {after : Contents} : before .claim key = some claim → claim.isLeaving = false →
    Live space before claim after → Leads space key before after
  | leaving {claim : Claim} {after : Contents} : before .claim key = some claim → claim.isLeaving = true →
    Leaving space before claim after → Leads space key before after

theorem Leads.live_of_found {after : Contents} (leads : Leads space claim.key before after)
    (found : before .claim claim.key = some claim) (live : claim.isLeaving = false) : Live space before claim after := by
  cases leads with
  | idle => exact .start found
  | live found' _ led =>
    cases found'.symm.trans found
    exact led
  | leaving found' leaving _ =>
    cases found'.symm.trans found
    cases live.symm.trans leaving

/-- How a pass ends. It fails only with an injected error. Over a live claim the first missing step is done, and
if there was none the reference is stored; otherwise a stored reference is deleted. -/
structure Ends (injected : StoreError → Prop) (space : String) (key : ObjectKey) (before : Contents)
    (outcome : Except Failure (Option PassResult)) (after : Contents) : Prop where
  leads : Leads space key before after
  failed : ∀ failure, outcome = .error failure → ∃ error, injected error ∧ failure = .store error
  advanced : ∀ claim, before .claim key = some claim → claim.isLeaving = false → ∀ result, outcome = .ok result →
    result = some (resultOf (claim.missing (key.referenceKey space))) ∧
    ∃ later, after .claim key = some later ∧ later.isLeaving = false ∧
      later.missing (key.referenceKey space) = (claim.missing (key.referenceKey space)).tail
  settled : outcome = .ok (some ⟨false, none⟩) →
    (∃ claim, after .claim key = some claim ∧ claim.hasMarker = true ∧
      claim.spec.referenceLink = key.referenceKey space) ∧
    (after .reference (key.referenceKey space)).isSome = true
  discarded : ∀ claim, before .claim key = some claim → claim.isLeaving = true →
    ∀ result, outcome = .ok result → result.isSome = true ∧ Discards space before key after

theorem Ends.error {key : ObjectKey} {error : StoreError} (injects : injected error) :
    Ends injected space key before (.error (.store error)) before where
  leads := .idle
  failed := by
    rintro _ ⟨⟩
    exact ⟨error, injects, rfl⟩
  advanced _ _ _ _ same := by cases same
  settled same := by cases same
  discarded _ _ _ _ same := by cases same

theorem Ends.absent {key : ObjectKey} (absent : before .claim key = none) :
    Ends injected space key before (.ok none) before where
  leads := .idle
  failed _ same := by cases same
  advanced claim here := by cases here.symm.trans absent
  settled same := by cases same
  discarded claim here := by cases here.symm.trans absent

theorem Ends.idle {key : ObjectKey} {after : Contents} (ended : Ends injected space key before (.ok none) after) :
    after = before := by
  cases ended.leads with
  | idle => rfl
  | live found live _ =>
    obtain ⟨same, _⟩ := ended.advanced _ found live none rfl
    cases same
  | leaving found leaving _ =>
    obtain ⟨some_result, _⟩ := ended.discarded _ found leaving none rfl
    cases some_result

theorem failed_of_map {α β : Type} {f : α → β} {outcome : Except Failure α} {failure : Failure}
    (failed : outcome.map f = .error failure) : outcome = .error failure := by
  cases outcome with
  | error another =>
    cases failed
    rfl
  | ok value => cases failed

theorem LiveEnd.ends (found : before .claim claim.key = some claim) (live : claim.isLeaving = false)
    {outcome : Except Failure PassResult} {after : Contents}
    (ended : LiveEnd injected space before claim outcome after) :
    Ends injected space claim.key before (outcome.map some) after where
  leads := .live found live ended.live
  failed failure same := ended.failed failure (failed_of_map same)
  advanced := by
    intro stored here _ result same
    cases here.symm.trans found
    cases outcome with
    | error failure => cases same
    | ok result =>
      cases same
      obtain ⟨rfl, later, kept, missing⟩ := ended.advanced result rfl
      exact ⟨rfl, later, kept, ended.live.isLeaving kept ▸ live, missing⟩
  settled := by
    intro same
    cases outcome with
    | error failure => cases same
    | ok result =>
      cases same
      obtain ⟨first, later, kept, missing⟩ := ended.advanced _ rfl
      have complete := eq_nil_of_resultOf first.symm
      rw [complete] at missing
      obtain ⟨_, linked, marked⟩ := Object.missing_eq_nil_iff.mp missing
      exact ⟨⟨later, kept, marked, linked⟩, ended.provided rfl⟩
  discarded := by
    intro stored here leaving
    cases here.symm.trans found
    cases live.symm.trans leaving

theorem LeavingEnd.ends (found : before .claim claim.key = some claim) (leaving : claim.isLeaving = true)
    {outcome : Except Failure PassResult} {after : Contents}
    (ended : LeavingEnd injected space before claim outcome after) :
    Ends injected space claim.key before (outcome.map some) after where
  leads := .leaving found leaving ended.leaving
  failed failure same := ended.failed failure (failed_of_map same)
  advanced := by
    intro stored here live
    cases here.symm.trans found
    cases live.symm.trans leaving
  settled := by
    intro same
    cases outcome with
    | error failure => cases same
    | ok result =>
      cases same
      cases ended.step _ rfl
  discarded := by
    intro _ _ _ result same
    cases outcome with
    | error failure => cases same
    | ok result =>
      cases same
      exact ⟨rfl, ended.discards ⟨result, rfl⟩⟩

theorem ensures_run (space : String) (found : before .claim claim.key = some claim) (keyed : before.Keyed)
    (genuine : ∀ error, injected error → error.category ≠ .notFound) :
    run.Ensures (.alone injected (Leads space claim.key before))
      (fun outcome _ after => Ends injected space claim.key before (outcome.map some) after)
      (.of claim space) before := by
  simp only [run, currentClaim, ensures_bind, ensures_get, ensures_pure]
  cases leaving : claim.isLeaving with
  | false =>
    rw [if_neg (show ¬(Pairing.of claim space).claim.isLeaving = true by simp [Pairing.of, leaving])]
    have passes := ensures_runLive space found leaving genuine
    refine Action.Ensures.mono (Action.Ensures.keeping passes fun _ => .live found leaving) ?_
    exact fun _ _ ended => ended.ends found leaving
  | true =>
    rw [if_pos (show (Pairing.of claim space).claim.isLeaving = true from leaving)]
    have passes := ensures_runDeleted space found keyed genuine
    refine Action.Ensures.mono (Action.Ensures.keeping passes fun _ => .leaving found leaving) ?_
    exact fun _ _ ended => ended.ends found leaving

end Pass

namespace Workflow

variable {injected : StoreError → Prop} {before : Contents}

/-- What a pass does, from the read of the claim on. One that comes to a result is kept. -/
theorem ensures_reconcile (space : String) (key : ObjectKey) (keyed : before.Keyed)
    (genuine : ∀ error, injected error → error.category ≠ .notFound) :
    (reconcile space key).Ensures (.alone injected (Pass.Leads space key before))
      (fun verdict after => Pass.Ends injected space key before verdict.outcome after ∧
        ∀ result, verdict.outcome = .ok (some result) → verdict.commits = true) before := by
  unfold reconcile
  rw [Action.ensures_bind, Action.ensures_ask_alone]
  constructor
  · intro fresh now
    cases found : before .claim key with
    | none =>
      rw [Contents.serve_get_of_absent found]
      refine ⟨.idle, ?_⟩
      simp only [StoreError.category, ↓reduceIte, note, Action.ensures_bind]
      exact ⟨Pass.Ends.absent found, nofun⟩
    | some claim =>
      rw [Contents.serve_get_of_found found]
      refine ⟨.idle, ?_⟩
      obtain rfl : claim.key = key := keyed .claim key claim found
      rw [Action.ensures_bind]
      refine Action.Ensures.mono (Pass.ensures_run space found keyed genuine) ?_
      rintro ⟨outcome, pairing⟩ after ended
      cases outcome with
      | ok result => exact ⟨ended, fun _ _ => rfl⟩
      | error failure => cases failure <;> exact ⟨ended, nofun⟩
  · intro error injects
    refine ⟨.idle, ?_⟩
    simp only [genuine error injects, ↓reduceIte, abandon]
    exact ⟨Pass.Ends.error injects, nofun⟩

end Workflow

end ClaimOperator

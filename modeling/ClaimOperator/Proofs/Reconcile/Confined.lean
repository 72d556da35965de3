import ClaimOperator.Proofs.Logic.Footprint
import ClaimOperator.Workflow

/-! A pass asks for its claim and for the reference under the derived key, and for nothing else.

Whatever it is answered, the pair that it works on keeps the two keys that it began with.
-/

set_option autoImplicit false

namespace ClaimOperator

def Pass.titles (space : String) (key : ObjectKey) : Set (Kind × ObjectKey) :=
  {(.claim, key), (.reference, key.referenceKey space)}

/-- A pair of a claim under this key and a reference under the key that is derived from it. -/
structure Pairing.Keyed (space : String) (key : ObjectKey) (pairing : Pairing) : Prop where
  claim : pairing.claim.key = key
  reference : pairing.reference.key = key.referenceKey space
  found : ∀ found, pairing.found = some found → found.key = key.referenceKey space

namespace Pairing

open Operation Pass

variable {space : String} {key : ObjectKey}

theorem keyed_of {claim : Claim} (own : claim.key = key) : Keyed space key (.of claim space) where
  claim := own
  reference := congrArg (ObjectKey.referenceKey · space) own
  found _ same := by cases same

theorem Keyed.claim_title {pairing : Pairing} (keyed : pairing.Keyed space key) :
    (Kind.claim, pairing.claim.key) ∈ titles space key := by
  rw [keyed.claim]
  exact .inl rfl

theorem Keyed.reference_title {pairing : Pairing} (keyed : pairing.Keyed space key) :
    (Kind.reference, pairing.reference.key) ∈ titles space key := by
  rw [keyed.reference]
  exact .inr rfl

theorem stays_changeClaim {change : Claim → Claim} (same : ∀ claim, (change claim).key = claim.key) :
    Stays (titles space key) (Keyed space key) (changeClaim change) :=
  .modifies fun pairing _ keyed => ⟨(same pairing.claim).trans keyed.claim, keyed.reference, keyed.found⟩

theorem stays_writeClaim : Stays (titles space key) (Keyed space key) writeClaim :=
  .bind_currentClaim fun _ keyed => .bind (.ask keyed.claim_title) fun _ => stays_changeClaim fun _ => rfl

theorem stays_notingFailure {α : Type} {invariant : Pairing → Prop} (message : String) {operation : Operation α}
    (stays : Stays (titles space key) invariant operation) :
    Stays (titles space key) invariant (notingFailure message operation) :=
  .tryCatch stays fun _ => .bind (.note _ _ _) fun _ => .throw _

theorem stays_writeStatus : Stays (titles space key) (Keyed space key) writeStatus :=
  .bind_currentClaim fun _ keyed =>
    stays_notingFailure _ (.bind (.ask keyed.claim_title) fun _ => stays_changeClaim fun _ => rfl)

/-- What is found is what was asked for, so it has the key of the reference. -/
theorem stays_findReference : Stays (titles space key) (Keyed space key) findReference := by
  intro pairing last keyed
  simp only [findReference, ensures_bind, ensures_get, ensures_tryCatch, ensures_map, ensures_modify, ensures_pure]
  refine ensures_ask_within (.get .reference pairing.referenceKey) keyed.reference_title fun answer read => ?_
  cases answer with
  | ok found => exact ⟨keyed.claim, keyed.reference, fun _ same => Option.some.inj same ▸ read.trans keyed.reference⟩
  | error failure =>
    cases failure with
    | store error =>
      dsimp only [Except.map]
      split
      · exact ⟨keyed.claim, keyed.reference, fun _ same => by cases same⟩
      · exact keyed
    | _ => exact keyed

theorem stays_openConditions : Stays (titles space key) (Keyed space key) openConditions :=
  .bind_currentClaim fun _ _ => .ite (.pure _) <|
    .bind (stays_changeClaim fun _ => rfl) fun _ => .bind stays_writeStatus fun _ => .pure _

theorem stays_linkReference : Stays (titles space key) (Keyed space key) linkReference :=
  .bind_get fun _ _ => .ite (.pure _) <| .bind (.note _ _ _) fun _ =>
    .bind (stays_changeClaim fun _ => rfl) fun _ => .bind stays_writeClaim fun _ => .pure _

theorem stays_holdClaim : Stays (titles space key) (Keyed space key) holdClaim :=
  .bind_currentClaim fun _ _ => .ite (.pure _) <| .bind (stays_changeClaim fun _ => rfl) fun _ =>
    .bind (.note _ _ _) fun _ => .bind (stays_notingFailure _ stays_writeClaim) fun _ => .pure _

theorem stays_releaseClaim : Stays (titles space key) (Keyed space key) releaseClaim :=
  .bind_currentClaim fun _ _ => .ite (.pure _) <| .bind (stays_changeClaim fun _ => rfl) fun _ =>
    .bind (.note _ _ _) fun _ => .bind stays_writeClaim fun _ => .pure _

theorem stays_provideReference : Stays (titles space key) (Keyed space key) provideReference := by
  refine .bind stays_findReference fun found => .ite (.pure _) <| .bind_get fun pairing keyed => ?_
  refine .bind (.note _ _ _) fun _ => .bind (.ask keyed.reference_title) fun version => ?_
  refine .bind (.modifies fun pairing _ keyed => ?_) fun _ => .pure _
  exact ⟨keyed.claim, keyed.reference, keyed.found⟩

theorem stays_discardReference : Stays (titles space key) (Keyed space key) discardReference := by
  refine .bind_get fun pairing keyed => .bind (.note _ _ _) fun _ => .tryCatch (.ask ?_) fun failure => ?_
  · have target : (pairing.found.getD pairing.reference).key = key.referenceKey space := by
      cases here : pairing.found with
      | none => exact keyed.reference
      | some found => exact keyed.found found here
    exact .inr (congrArg (Prod.mk Kind.reference) target)
  · cases failure with
    | store error => exact .ite (.note _ _ _) (.throw _)
    | _ => exact .throw _

theorem stays_enterPhase (target : ClaimPhase) : Stays (titles space key) (Keyed space key) (enterPhase target) :=
  .bind_currentClaim fun _ _ => .ite (.pure _) <| .bind (.note _ _ _) fun _ =>
    .bind (stays_changeClaim fun _ => rfl) fun _ => .bind stays_writeStatus fun _ => .pure _

theorem stays_recordCondition (update : ConditionUpdate) :
    Stays (titles space key) (Keyed space key) (recordCondition update) := by
  refine .bind .clock fun now => .bind_currentClaim fun pairing _ => ?_
  split
  · exact .pure _
  · exact .bind (stays_changeClaim fun _ => rfl) fun _ => .bind stays_writeStatus fun _ => .pure _

theorem stays_advanceDeletion : Stays (titles space key) (Keyed space key) advanceDeletion := by
  refine .bind stays_findReference fun found => .ite ?_ stays_releaseClaim
  exact .bind .get fun pairing => .ite (.pure _) (.bind stays_discardReference fun _ => .pure _)

end Pairing

namespace Pass

open Operation Pairing

variable {space : String} {key : ObjectKey}

theorem stays_stage : ∀ stage ∈ stages, Stays (titles space key) (Keyed space key) stage.operation := by
  simp only [stages, List.forall_mem_cons]
  exact ⟨stays_openConditions, stays_enterPhase .pending, stays_linkReference, stays_holdClaim,
    stays_provideReference, stays_enterPhase .pendingProject, nofun⟩

theorem stays_runDeleted : Stays (titles space key) (Keyed space key) runDeleted := by
  refine .bind (.discard (keeps_attempt .deletion false stays_advanceDeletion nofun)) fun _ => ?_
  refine .bind keeps_currentClaim fun claim => .ite (.pure _) ?_
  exact .bind (keeps_note _ _) fun _ => .pure _

theorem stays_run : Stays (titles space key) (Keyed space key) Pass.run :=
  .bind keeps_currentClaim fun _ => .ite stays_runDeleted (keeps_runLive stays_recordCondition stays_stage)

end Pass

theorem Workflow.reconcile_within (space : String) (key : ObjectKey) (last : Kind × ObjectKey) :
    (reconcile space key).Ensures (.within (Pass.titles space key)) (fun _ _ => True) last := by
  unfold reconcile
  rw [Action.ensures_bind, Action.ensures_ask]
  intro met _ answer left answered
  obtain ⟨read, rfl⟩ := answered
  refine ⟨.inl rfl, ?_⟩
  cases answer with
  | ok claim =>
    rw [Action.ensures_bind]
    refine Action.Ensures.mono (Pass.stays_run (.of claim space) _ (Pairing.keyed_of read)) fun result _ _ => ?_
    obtain ⟨outcome, pairing⟩ := result
    cases outcome with
    | ok result => trivial
    | error failure => cases failure <;> trivial
  | error failure =>
    cases failure with
    | store error =>
      dsimp only
      split <;> trivial
    | _ => trivial

end ClaimOperator

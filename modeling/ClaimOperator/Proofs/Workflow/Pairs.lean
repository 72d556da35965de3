import ClaimOperator.Proofs.Reconcile.WholePass
import ClaimOperator.Proofs.Workflow.Requests

/-! Every stored reference has its claim.

The reference lies under the key that is derived for the claim that it links to, and
that claim is stored, holds the marker and links back. There is one lemma for each kind
of change that a unit of work may make.
-/

set_option autoImplicit false

namespace ClaimOperator

def Contents.Backs (contents : Contents) (link : ObjectKey) (key : ObjectKey) : Prop :=
  ∃ claim, contents .claim key = some claim ∧ claim.hasMarker = true ∧ claim.spec.referenceLink = link

/-- Every reference has the claim that it links to, held and linked back. -/
def Contents.NoOrphans (contents : Contents) : Prop :=
  ∀ key reference, contents .reference key = some reference → contents.Backs key reference.spec.claimLink

/-- Every reference lies where its claim's should. -/
def Contents.Derived (space : String) (contents : Contents) : Prop :=
  ∀ key reference, contents .reference key = some reference → key = reference.spec.claimLink.referenceKey space

structure Contents.Paired (space : String) (contents : Contents) : Prop where
  noOrphans : contents.NoOrphans
  derived : contents.Derived space

namespace Contents

variable {space : String} {contents : Contents} {key : ObjectKey}

theorem paired_empty (space : String) : Paired space empty := ⟨(fun _ _ found => nomatch found), nofun⟩

/-- A claim may change as long as those references that count on it still can. -/
theorem Paired.set_claim (paired : Paired space contents) {entry : Option Claim}
    (counted : ∀ reference, contents .reference (key.referenceKey space) = some reference →
      reference.spec.claimLink = key → ∃ claim, entry = some claim ∧ claim.hasMarker = true ∧
        claim.spec.referenceLink = key.referenceKey space) :
    Paired space (contents.set .claim key entry) where
  noOrphans place reference found := by
    rw [set_claim_reference] at found
    by_cases here : reference.spec.claimLink = key
    · have derived := paired.derived place reference found
      rw [here] at derived
      subst derived
      obtain ⟨claim, rfl, marked, linked⟩ := counted reference found here
      exact ⟨claim, by rw [here, set_self], marked, linked⟩
    · obtain ⟨claim, stored, marked, linked⟩ := paired.noOrphans place reference found
      exact ⟨claim, by rw [set_of_key_ne _ _ _ here, stored], marked, linked⟩
  derived place reference found := by
    rw [set_claim_reference] at found
    exact paired.derived place reference found

theorem Paired.set_reference (paired : Paired space contents) {entry : Option Reference}
    (backed : ∀ reference, entry = some reference →
      contents.Backs key reference.spec.claimLink ∧ key = reference.spec.claimLink.referenceKey space) :
    Paired space (contents.set .reference key entry) where
  noOrphans place reference found := by
    rw [set_apply] at found
    unfold Backs
    rw [set_reference_claim]
    split at found
    · next here => exact here ▸ (backed reference found).1
    · exact paired.noOrphans place reference found
  derived place reference found := by
    rw [set_apply] at found
    split at found
    · next here => exact here ▸ (backed reference found).2
    · exact paired.derived place reference found

theorem Paired.backs (paired : Paired space contents) {claim : Claim} (found : contents .claim key = some claim)
    {reference : Reference} (stored : contents .reference (key.referenceKey space) = some reference)
    (link : reference.spec.claimLink = key) :
    claim.hasMarker = true ∧ claim.spec.referenceLink = key.referenceKey space := by
  obtain ⟨backing, here, marked, linked⟩ := paired.noOrphans _ reference stored
  rw [link] at here
  cases here.symm.trans found
  exact ⟨marked, linked⟩

theorem Paired.deletesClaim (paired : Paired space contents) {after : Contents}
    (deletes : Deletes .claim key contents after) : Paired space after := by
  cases deletes with
  | idle => exact paired
  | @marked claim now fresh found =>
    apply paired.set_claim
    intro reference stored link
    obtain ⟨marked, linked⟩ := paired.backs found stored link
    have held := WriteRules.isSome_mark? (Object.isHeld_of_hasMarker marked) now
    obtain ⟨later, written⟩ := Option.isSome_iff_exists.mp held
    refine ⟨later.withVersion (some fresh), by rw [written]; rfl, ?_, ?_⟩
    · exact (Object.hasMarker_of_mark? written).trans marked
    · exact (congrArg (·.referenceLink) (WriteRules.spec_of_mark? written)).trans linked

theorem Paired.deletesReference (paired : Paired space contents) {after : Contents}
    (deletes : Deletes .reference key contents after) : Paired space after := by
  cases deletes with
  | idle => exact paired
  | marked found =>
    apply paired.set_reference
    intro later written
    obtain ⟨marked, mark, rfl⟩ := Option.map_eq_some_iff.mp written
    have spec := WriteRules.spec_of_mark? mark
    show contents.Backs key marked.spec.claimLink ∧ key = marked.spec.claimLink.referenceKey space
    rw [spec]
    exact ⟨paired.noOrphans key _ found, paired.derived key _ found⟩

theorem Paired.creates (paired : Paired space contents) {after : Contents} (creates : Creates key contents after) :
    Paired space after := by
  cases creates with
  | idle => exact paired
  | created absent _ =>
    apply paired.set_claim
    intro reference stored link
    obtain ⟨claim, here, _⟩ := paired.noOrphans _ reference stored
    rw [link, absent] at here
    cases here

theorem Paired.edits (paired : Paired space contents) {after : Contents} (edits : Edits key contents after) :
    Paired space after := by
  cases edits with
  | idle => exact paired
  | removed => exact paired.set_reference nofun
  | written found same =>
    apply paired.set_reference
    rintro _ ⟨⟩
    rw [same]
    exact ⟨paired.noOrphans key _ found, paired.derived key _ found⟩

theorem Paired.live (paired : Paired space contents) {claim : Claim} {after : Contents}
    (found : contents .claim claim.key = some claim) (live : Pass.Live space contents claim after) :
    Paired space after := by
  obtain ⟨later, entry, descends, provided, rfl⟩ := live
  have written : Paired space (contents.set .claim claim.key (some later)) := by
    apply paired.set_claim
    intro reference stored link
    obtain ⟨marked, linked⟩ := paired.backs found stored link
    exact ⟨later, rfl, descends.hasMarker marked, descends.linked linked⟩
  rw [← set_reference_set_claim]
  rcases provided with rfl | ⟨_, marked, linked, version, rfl⟩
  · have same := set_current (contents.set .claim claim.key (some later)) .reference (claim.key.referenceKey space)
    rw [set_claim_reference] at same
    rwa [same]
  · apply written.set_reference
    rintro _ ⟨⟩
    exact ⟨⟨later, set_self _ _ _ _, marked, linked⟩, rfl⟩

theorem Paired.leaving (paired : Paired space contents) {claim : Claim} {after : Contents}
    (leaving : Pass.Leaving space contents claim after) : Paired space after := by
  cases leaving with
  | unchanged => exact paired
  | discarded stored _ => exact paired.deletesReference (.marked stored)
  | released absent _ =>
    apply paired.set_claim
    intro reference stored
    cases absent.symm.trans stored
  | removed absent _ _ =>
    apply paired.set_claim
    intro reference stored
    cases absent.symm.trans stored

theorem Paired.leads (paired : Paired space contents) (keyed : contents.Keyed) {after : Contents}
    (leads : Pass.Leads space key contents after) : Paired space after := by
  cases leads with
  | idle => exact paired
  | live found _ live =>
    obtain rfl := keyed .claim key _ found
    exact paired.live found live
  | leaving found _ leaving => exact paired.leaving leaving

end Contents

end ClaimOperator

import ClaimOperator.Proofs.Store.Versions
import ClaimOperator.Proofs.Workflow.Pairs
import Mathlib.Logic.Relation

/-! What the clients of one store in memory may do to it, request by request.

A claim that is gone stays gone, one whose deletion is requested stays so, and only from
such a claim is the marker taken off. A reference is new only for a claim that is gone,
leaving or held. A client counts on this between its own requests; what it knows of the
store then is what no such move can take away.
-/

set_option autoImplicit false

namespace ClaimOperator

namespace Contents

def Holds (contents : Contents) (key : ObjectKey) : Prop :=
  ∃ claim, contents .claim key = some claim ∧ claim.hasMarker = true

/-- The claim is gone, or its deletion is requested. -/
def Doomed (contents : Contents) (key : ObjectKey) : Prop :=
  ∀ claim, contents .claim key = some claim → claim.isLeaving = true

def Guarded (contents : Contents) (key : ObjectKey) : Prop :=
  ∀ claim, contents .claim key = some claim → claim.isLeaving = true ∨ claim.hasMarker = true

def Unlinked (contents : Contents) (key : ObjectKey) : Prop :=
  ∀ place reference, contents .reference place = some reference → reference.spec.claimLink ≠ key

/-- Every stored reference has the claim that it links to, with the marker. -/
def NoStrays (contents : Contents) : Prop :=
  ∀ place reference, contents .reference place = some reference → contents.Holds reference.spec.claimLink

/-- A reference is new only for a claim whose deletion is not requested. -/
def Prompt (before after : Contents) : Prop :=
  ∀ place reference, before .reference place = none → after .reference place = some reference →
    ∃ claim, before .claim reference.spec.claimLink = some claim ∧ claim.isLeaving = false

/-- How one request may change what is stored. When references are created promptly, the marker is taken off only
when nothing links to the claim. -/
structure Shifts (space : String) (prompt : Prop) (before after : Contents) : Prop where
  claims : ∀ key later, after .claim key = some later →
    ∃ claim, before .claim key = some claim ∧ (claim.isLeaving = true → later.isLeaving = true)
  released : ∀ key claim, before .claim key = some claim → claim.hasMarker = true →
    after.Holds key ∨ claim.isLeaving = true ∧ (prompt → before.Unlinked key)
  references : ∀ place reference, after .reference place = some reference →
    (∃ earlier, before .reference place = some earlier ∧ earlier.spec.claimLink = reference.spec.claimLink) ∨
      before .reference place = none ∧ place = reference.spec.claimLink.referenceKey space ∧
        before.Guarded reference.spec.claimLink
  single : (∀ key, after .claim key = before .claim key) ∨
    ∀ place, after .reference place = before .reference place

variable {space : String} {prompt : Prop} {before after : Contents} {key : ObjectKey}

theorem Shifts.idle (space : String) (prompt : Prop) (contents : Contents) : Shifts space prompt contents contents where
  claims _ later found := ⟨later, found, id⟩
  released _ claim found marked := .inl ⟨claim, found, marked⟩
  references _ reference found := .inl ⟨reference, found, rfl⟩
  single := .inl fun _ => rfl

theorem Shifts.set_claim {entry : Option Claim}
    (claims : ∀ later, entry = some later →
      ∃ claim, before .claim key = some claim ∧ (claim.isLeaving = true → later.isLeaving = true))
    (released : ∀ claim, before .claim key = some claim → claim.hasMarker = true →
      (∃ later, entry = some later ∧ later.hasMarker = true) ∨
        claim.isLeaving = true ∧ (prompt → before.Unlinked key)) :
    Shifts space prompt before (before.set .claim key entry) where
  claims other later found := by
    by_cases here : other = key
    · subst here
      rw [set_self] at found
      exact claims later found
    · rw [set_of_key_ne _ _ _ here] at found
      exact ⟨later, found, id⟩
  released other claim found marked := by
    by_cases here : other = key
    · subst here
      refine (released claim found marked).imp_left ?_
      rintro ⟨later, rfl, marked⟩
      exact ⟨later, set_self _ _ _ _, marked⟩
    · exact .inl ⟨claim, (set_of_key_ne _ _ _ here).trans found, marked⟩
  references place reference found := by
    rw [set_claim_reference] at found
    exact .inl ⟨reference, found, rfl⟩
  single := .inr fun place => set_claim_reference _ _ _ _

theorem Shifts.set_reference {entry : Option Reference}
    (references : ∀ reference, entry = some reference →
      (∃ earlier, before .reference key = some earlier ∧ earlier.spec.claimLink = reference.spec.claimLink) ∨
        before .reference key = none ∧ key = reference.spec.claimLink.referenceKey space ∧
          before.Guarded reference.spec.claimLink) :
    Shifts space prompt before (before.set .reference key entry) where
  claims other later found := ⟨later, (set_reference_claim _ _ _ _).symm.trans found, id⟩
  released other claim found marked := .inl ⟨claim, (set_reference_claim _ _ _ _).trans found, marked⟩
  references place reference found := by
    rw [set_apply] at found
    split at found
    · next here => exact here ▸ references reference found
    · exact .inl ⟨reference, found, rfl⟩
  single := .inl fun other => set_reference_claim _ _ _ _

theorem Derived.shifts (derived : before.Derived space) (shifts : Shifts space prompt before after) :
    after.Derived space := by
  intro place reference found
  rcases shifts.references place reference found with ⟨earlier, stored, same⟩ | ⟨_, here, _⟩
  · rw [← same]
    exact derived place earlier stored
  · exact here

theorem Doomed.shifts (doomed : before.Doomed key) (shifts : Shifts space prompt before after) : after.Doomed key := by
  intro later found
  obtain ⟨claim, stored, leaving⟩ := shifts.claims key later found
  exact leaving (doomed claim stored)

theorem Guarded.shifts (guarded : before.Guarded key) (shifts : Shifts space prompt before after) : after.Guarded key := by
  intro later found
  obtain ⟨claim, stored, leaving⟩ := shifts.claims key later found
  rcases guarded claim stored with doomed | marked
  · exact .inl (leaving doomed)
  · rcases shifts.released key claim stored marked with ⟨other, found', marked'⟩ | ⟨doomed, _⟩
    · cases found'.symm.trans found
      exact .inr marked'
    · exact .inl (leaving doomed)

theorem Unlinked.shifts (unlinked : before.Unlinked key) (doomed : before.Doomed key)
    (shifts : Shifts space prompt before after) (promptly : Prompt before after) : after.Unlinked key := by
  intro place reference found link
  rcases shifts.references place reference found with ⟨earlier, stored, same⟩ | ⟨absent, _⟩
  · exact unlinked place earlier stored (same.trans link)
  · obtain ⟨claim, stored, live⟩ := promptly place reference absent found
    rw [link] at stored
    cases (doomed claim stored).symm.trans live

/-! When nothing goes astray. -/

/-- References are new only for held claims, and the marker is taken off only when nothing links to the claim. -/
structure Orderly (before after : Contents) : Prop where
  created : ∀ place reference, before .reference place = none → after .reference place = some reference →
    before.Holds reference.spec.claimLink
  released : ∀ key, before.Holds key → ¬after.Holds key → before.Unlinked key

theorem Holds.of_same (same : ∀ key, after .claim key = before .claim key) : after.Holds key ↔ before.Holds key := by
  simp only [Holds, same]

/-- The first stray comes of a move that is not orderly, and every such move leaves one. -/
theorem NoStrays.shifts_iff (noStrays : before.NoStrays) (shifts : Shifts space prompt before after) :
    after.NoStrays ↔ Orderly before after := by
  constructor
  -- One request changes claims or references, not both: what the move did to the one kind, the other shows.
  · intro kept
    constructor
    · intro place reference absent found
      have held := kept place reference found
      rcases shifts.single with same | same
      · exact (Holds.of_same same).mp held
      · cases absent.symm.trans ((same place).symm.trans found)
    · rintro key held lost place reference found rfl
      rcases shifts.single with same | same
      · exact lost ((Holds.of_same same).mpr held)
      · exact lost (kept place reference ((same place).trans found))
  · intro orderly place reference found
    rcases shifts.references place reference found with ⟨earlier, stored, same⟩ | ⟨absent, _⟩
    · by_contra lost
      have held := noStrays place earlier stored
      rw [same] at held
      exact orderly.released _ held lost place earlier stored same
    · have held := orderly.created place reference absent found
      rcases shifts.single with same | same
      · exact (Holds.of_same same).mpr held
      · cases absent.symm.trans ((same place).symm.trans found)

theorem Prompt.orderly (promptly : Prompt before after) (shifts : Shifts space True before after) :
    Orderly before after where
  created place reference absent found := by
    obtain ⟨claim, stored, live⟩ := promptly place reference absent found
    rcases shifts.references place reference found with ⟨earlier, stored', _⟩ | ⟨_, _, guarded⟩
    · cases absent.symm.trans stored'
    · rcases guarded claim stored with leaving | marked
      · cases live.symm.trans leaving
      · exact ⟨claim, stored, marked⟩
  released key held lost := by
    obtain ⟨claim, stored, marked⟩ := held
    rcases shifts.released key claim stored marked with kept | ⟨_, unlinked⟩
    · exact absurd kept lost
    · exact unlinked trivial

end Contents

/-! The requests that the clients make. -/

/-- A request that a client of this store may make, in view of what is stored: a reference for a guarded claim
under the derived key; or an update that takes the marker off a doomed claim only, and if references are created
promptly, only when nothing links to the claim. -/
def StoreRequest.Proper (space : String) (prompt : Prop) (met : Contents) : StoreRequest → Prop
  | .get _ _ | .updateStatus _ | .delete _ => True
  | @StoreRequest.create .claim _ | @StoreRequest.update .reference _ => False
  | @StoreRequest.create .reference reference =>
    reference.key = reference.spec.claimLink.referenceKey space ∧ met.Guarded reference.spec.claimLink
  | @StoreRequest.update .claim claim => ∀ stored, met .claim claim.key = some stored →
    WriteRules.matchVersion stored claim = .ok () → stored.hasMarker = true →
    claim.hasMarker = true ∨ stored.isLeaving = true ∧ (prompt → met.Unlinked claim.key)

namespace Contents

variable {space : String} {prompt : Prop} {met : Contents}

theorem Shifts.settle {kind : Kind} {α : Type} {key : ObjectKey} {outcome : Except StoreError (α × Entry kind)}
    (written : ∀ answer entry, outcome = .ok (answer, entry) → Shifts space prompt met (met.set kind key entry)) :
    Shifts space prompt met (met.settle key outcome).2 := by
  cases outcome with
  | error refused => exact .idle space prompt met
  | ok result => exact written _ _ rfl

theorem Shifts.same {kind : Kind} {key : ObjectKey} {entry : Entry kind} (found : met kind key = entry) :
    Shifts space prompt met (met.set kind key entry) := by
  rw [← found, set_current]
  exact .idle space prompt met

theorem Shifts.updateStatus {kind : Kind} (object : Object kind) (fresh : String) (now : Timestamp) :
    Shifts space prompt met (met.serve fresh now (.updateStatus object)).2 := by
  apply Shifts.settle
  intro answer entry written
  obtain ⟨stored, found, _, same⟩ := Entry.overwrite_eq_ok_iff.mp written
  cases same
  cases kind with
  | claim =>
    apply Shifts.set_claim
    · rintro _ ⟨⟩
      exact ⟨stored, found, id⟩
    · intro claim found' marked
      cases found'.symm.trans found
      exact .inl ⟨_, rfl, marked⟩
  | reference =>
    apply Shifts.set_reference
    rintro _ ⟨⟩
    exact .inl ⟨stored, found, rfl⟩

theorem Shifts.delete {kind : Kind} (object : Object kind) (fresh : String) (now : Timestamp) :
    Shifts space prompt met (met.serve fresh now (.delete object)).2 := by
  apply Shifts.settle
  intro answer entry written
  cases found : met kind object.key with
  | none =>
    rw [found] at written
    cases written
  | some stored =>
    simp only [found, Entry.delete] at written
    split at written
    · cases written
      exact .same found
    · cases written
      cases kind with
      | claim =>
        apply Shifts.set_claim
        · intro later same
          obtain ⟨marked, held, rfl⟩ := Option.map_eq_some_iff.mp same
          have leaving := WriteRules.isLeaving_of_mark? held
          exact ⟨stored, found, fun _ => leaving⟩
        · intro claim found' marked
          cases found'.symm.trans found
          -- The marker holds the claim, so the deletion is only requested.
          obtain ⟨later, held⟩ :=
            Option.isSome_iff_exists.mp (WriteRules.isSome_mark? (Object.isHeld_of_hasMarker marked) now)
          have marked' := (Object.hasMarker_of_mark? held).trans marked
          exact .inl ⟨later.withVersion (some fresh), by rw [held]; rfl, marked'⟩
      | reference =>
        apply Shifts.set_reference
        intro reference same
        obtain ⟨marked, held, rfl⟩ := Option.map_eq_some_iff.mp same
        have spec := WriteRules.spec_of_mark? held
        exact .inl ⟨stored, found, congrArg (·.claimLink) spec.symm⟩

theorem Shifts.createReference {reference : Reference}
    (derived : reference.key = reference.spec.claimLink.referenceKey space)
    (guarded : met.Guarded reference.spec.claimLink) (fresh : String) (now : Timestamp) :
    Shifts space prompt met (met.serve fresh now (.create reference)).2 := by
  apply Shifts.settle
  intro answer entry written
  cases found : met .reference reference.key with
  | some stored =>
    rw [found] at written
    cases written
  | none =>
    rw [found] at written
    cases written
    apply Shifts.set_reference
    rintro _ ⟨⟩
    exact .inr ⟨found, derived, guarded⟩

theorem Shifts.updateClaim {claim : Claim}
    (proper : StoreRequest.Proper space prompt met (.update claim)) (fresh : String) (now : Timestamp) :
    Shifts space prompt met (met.serve fresh now (.update claim)).2 := by
  apply Shifts.settle
  intro answer entry written
  obtain ⟨stored, found, matched, same⟩ := Entry.overwrite_eq_ok_iff.mp written
  have releases : ∀ claim', met .claim claim.key = some claim' → claim'.hasMarker = true →
      claim.hasMarker = true ∨ claim'.isLeaving = true ∧ (prompt → met.Unlinked claim.key) := by
    intro claim' found' marked
    cases found'.symm.trans found
    exact proper stored found matched marked
  split at same
  · next released =>
    cases same
    apply Shifts.set_claim
    · intro later removed
      cases removed
    · intro claim' found' marked
      refine (releases claim' found' marked).imp_left fun marked => ?_
      -- With the marker kept the update does not take the claim out after all.
      have revised : (WriteRules.revise stored claim).hasMarker = true := marked
      cases (Object.not_isReleased_of_hasMarker revised).symm.trans released
  · cases same
    apply Shifts.set_claim
    · rintro _ ⟨⟩
      exact ⟨stored, found, id⟩
    · intro claim' found' marked
      refine (releases claim' found' marked).imp_left fun marked => ?_
      exact ⟨_, rfl, marked⟩

theorem Shifts.serve {request : StoreRequest} (proper : request.Proper space prompt met)
    (fresh : String) (now : Timestamp) : Shifts space prompt met (met.serve fresh now request).2 := by
  match request with
  | .get kind key =>
    apply Shifts.settle
    intro answer entry read
    cases found : met kind key with
    | none =>
      rw [found] at read
      cases read
    | some stored =>
      rw [found] at read
      cases read
      exact .same found
  | .updateStatus object => exact .updateStatus object fresh now
  | .delete object => exact .delete object fresh now
  | @StoreRequest.create .reference reference => exact .createReference proper.1 proper.2 fresh now
  | @StoreRequest.update .claim claim => exact .updateClaim proper fresh now

end Contents

end ClaimOperator

import ClaimOperator.Resource.Finalizers
import Mathlib.Data.List.Basic

/-! The finalizers of a claim over a whole history of changes to the marker.

The finalizers of other controllers stay as they are, in order and with repetitions. The marker may have
been anywhere among them, and more than once. The first removal that finds it takes all of it away, and
from then on it is the last finalizer or none.
-/

set_option autoImplicit false

namespace ClaimOperator

namespace Object

variable (claim : Claim) (change : MarkerChange)

def foreignFinalizers : List String := claim.metadata.finalizers.filter (· ≠ Finalizers.claimMarker)

def afterChanges (changes : List MarkerChange) : Claim :=
  changes.foldl (fun claim change => (claim.changeMarker change).2) claim

@[simp] theorem afterChanges_nil : claim.afterChanges [] = claim := rfl

theorem afterChanges_append (before after : List MarkerChange) :
    claim.afterChanges (before ++ after) = (claim.afterChanges before).afterChanges after :=
  List.foldl_append

@[simp] theorem afterChanges_singleton : claim.afterChanges [change] = (claim.changeMarker change).2 := rfl

theorem hasMarker_iff : claim.hasMarker = true ↔ Finalizers.claimMarker ∈ claim.metadata.finalizers := by
  simp [hasMarker]

/-! One change. -/

section Change

variable {claim : Claim} {change : MarkerChange}

theorem finalizers_addMarker (unmarked : claim.hasMarker = false) :
    claim.addMarker.metadata.finalizers = claim.metadata.finalizers ++ [Finalizers.claimMarker] := by
  have absent : Finalizers.claimMarker ∉ claim.metadata.finalizers := by
    rw [← hasMarker_iff, unmarked]
    exact Bool.false_ne_true
  simp only [addMarker, Finalizers.insert, if_neg absent]

theorem finalizers_removeMarker : claim.removeMarker.metadata.finalizers = claim.foreignFinalizers := rfl

theorem changeMarker_cases (claim : Claim) (change : MarkerChange) :
    (claim.hasMarker = decide (change = .add) ∧ claim.changeMarker change = (false, claim)) ∨
    (change = .add ∧ claim.hasMarker = false ∧ claim.changeMarker change = (true, claim.addMarker)) ∨
    (change = .remove ∧ claim.hasMarker = true ∧ claim.changeMarker change = (true, claim.removeMarker)) := by
  cases change <;> cases marked : claim.hasMarker <;> simp [changeMarker, marked]

theorem foreignFinalizers_changeMarker (claim : Claim) (change : MarkerChange) :
    (claim.changeMarker change).2.foreignFinalizers = claim.foreignFinalizers := by
  obtain ⟨-, same⟩ | ⟨-, unmarked, added⟩ | ⟨-, -, removed⟩ := claim.changeMarker_cases change
  · rw [same]
  · rw [added, foreignFinalizers, finalizers_addMarker unmarked]
    simp [foreignFinalizers]
  · rw [removed, foreignFinalizers, finalizers_removeMarker]
    simp [foreignFinalizers]

theorem hasMarker_changeMarker (claim : Claim) (change : MarkerChange) :
    (claim.changeMarker change).2.hasMarker = decide (change = .add) := by
  obtain ⟨marked, same⟩ | ⟨rfl, -, added⟩ | ⟨rfl, -, removed⟩ := claim.changeMarker_cases change
  · rw [same, marked]
  · rw [added, hasMarker_addMarker]
    rfl
  · rw [removed, hasMarker_removeMarker]
    rfl

theorem changeMarker_fst_iff (claim : Claim) (change : MarkerChange) :
    (claim.changeMarker change).1 = true ↔
      (claim.changeMarker change).2.metadata.finalizers ≠ claim.metadata.finalizers := by
  obtain ⟨-, same⟩ | ⟨-, unmarked, added⟩ | ⟨-, marked, removed⟩ := claim.changeMarker_cases change
  · simp [same]
  · simp [added, finalizers_addMarker unmarked]
  · have gone : Finalizers.claimMarker ∉ claim.foreignFinalizers := by simp [foreignFinalizers]
    have different : claim.foreignFinalizers ≠ claim.metadata.finalizers := by
      intro same
      exact gone (same ▸ claim.hasMarker_iff.mp marked)
    simp [removed, finalizers_removeMarker, different]

def SameBesides (claim other : Claim) : Prop :=
  { claim with metadata.finalizers := [] } = { other with metadata.finalizers := [] }

theorem changeMarker_sameBesides (claim : Claim) (change : MarkerChange) :
    (claim.changeMarker change).2.SameBesides claim := by
  obtain ⟨-, same⟩ | ⟨-, -, added⟩ | ⟨-, -, removed⟩ := claim.changeMarker_cases change
  · rw [same]; rfl
  · rw [added]; rfl
  · rw [removed]; rfl

/-- The marker is the last finalizer, once, or there is none. -/
def MarkedLast (claim : Claim) : Prop :=
  claim.metadata.finalizers =
    claim.foreignFinalizers ++ if claim.hasMarker then [Finalizers.claimMarker] else []

theorem markedLast_removeMarker (claim : Claim) : claim.removeMarker.MarkedLast := by
  simp [MarkedLast, finalizers_removeMarker, foreignFinalizers]

theorem MarkedLast.changeMarker (settled : claim.MarkedLast) (change : MarkerChange) :
    (claim.changeMarker change).2.MarkedLast := by
  obtain ⟨-, same⟩ | ⟨-, unmarked, added⟩ | ⟨-, -, removed⟩ := claim.changeMarker_cases change
  · rwa [same]
  · have foreign := claim.foreignFinalizers_changeMarker change
    have before : claim.metadata.finalizers = claim.foreignFinalizers := by simpa [MarkedLast, unmarked] using settled
    rw [added] at foreign ⊢
    rw [MarkedLast, foreign, finalizers_addMarker unmarked, ← before, hasMarker_addMarker, if_pos rfl]
  · rw [removed]
    exact claim.markedLast_removeMarker

theorem MarkedLast.count_le_one (settled : claim.MarkedLast) :
    claim.metadata.finalizers.count Finalizers.claimMarker ≤ 1 := by
  have foreign : claim.foreignFinalizers.count Finalizers.claimMarker = 0 :=
    List.count_eq_zero.mpr (by simp [foreignFinalizers])
  rw [settled, List.count_append, foreign]
  split <;> simp

theorem markedLast_of_removed (removed : (claim.changeMarker .remove).1 = true) :
    (claim.changeMarker .remove).2.MarkedLast := by
  obtain ⟨-, same⟩ | ⟨added, -⟩ | ⟨-, -, gone⟩ := claim.changeMarker_cases .remove
  · simp [same] at removed
  · cases added
  · rw [gone]
    exact claim.markedLast_removeMarker

end Change

/-! A history of changes. -/

theorem foreignFinalizers_afterChanges (changes : List MarkerChange) :
    (claim.afterChanges changes).foreignFinalizers = claim.foreignFinalizers := by
  induction changes generalizing claim with
  | nil => rfl
  | cons change rest ih => exact (ih _).trans (claim.foreignFinalizers_changeMarker change)

theorem afterChanges_sameBesides (changes : List MarkerChange) : (claim.afterChanges changes).SameBesides claim := by
  induction changes generalizing claim with
  | nil => rfl
  | cons change rest ih => exact (ih _).trans (claim.changeMarker_sameBesides change)

theorem MarkedLast.afterChanges {claim : Claim} (settled : claim.MarkedLast) (changes : List MarkerChange) :
    (claim.afterChanges changes).MarkedLast := by
  induction changes generalizing claim with
  | nil => exact settled
  | cons change rest ih => exact ih (settled.changeMarker change)

/-- What a history of changes does to the finalizers of a claim, and what it answers. -/
structure MarkerHistory (changes : List MarkerChange) : Prop where
  foreign : (claim.afterChanges changes).foreignFinalizers = claim.foreignFinalizers
  besides : (claim.afterChanges changes).SameBesides claim
  answers : ∀ before change after, changes = before ++ change :: after →
    (((claim.afterChanges before).changeMarker change).1 = true ↔
      (claim.afterChanges (before ++ [change])).metadata.finalizers ≠
        (claim.afterChanges before).metadata.finalizers)
  marked : ∀ before last, changes = before ++ [last] →
    (Finalizers.claimMarker ∈ (claim.afterChanges changes).metadata.finalizers ↔ last = .add)
  -- A removal that found the marker, whenever that was.
  last : ∀ before after, changes = before ++ .remove :: after →
    ((claim.afterChanges before).changeMarker .remove).1 = true →
    (claim.afterChanges changes).metadata.finalizers.count Finalizers.claimMarker ≤ 1 ∧
      (Finalizers.claimMarker ∈ (claim.afterChanges changes).metadata.finalizers →
        (claim.afterChanges changes).metadata.finalizers = claim.foreignFinalizers ++ [Finalizers.claimMarker])

/-- Whatever finalizers a claim has to begin with, this is what changes to its marker do. -/
theorem markerHistory (changes : List MarkerChange) : claim.MarkerHistory changes where
  foreign := claim.foreignFinalizers_afterChanges changes
  besides := claim.afterChanges_sameBesides changes
  answers before change after _ := by
    rw [afterChanges_append, afterChanges_singleton]
    exact changeMarker_fst_iff _ change
  marked before last ends := by
    rw [ends, afterChanges_append, afterChanges_singleton, ← hasMarker_iff, hasMarker_changeMarker]
    exact decide_eq_true_iff
  last before after splits removed := by
    have settled : (claim.afterChanges changes).MarkedLast := by
      rw [splits, afterChanges_append]
      exact (markedLast_of_removed removed).afterChanges after
    refine ⟨settled.count_le_one, fun marked => ?_⟩
    rw [settled, foreignFinalizers_afterChanges, if_pos ((hasMarker_iff _).mpr marked)]

def markedTwice : Claim where
  metadata :=
    { key := ⟨"customer", "my-claim"⟩
      finalizers := ["custodian", Finalizers.claimMarker, "custodian", Finalizers.claimMarker] }
  spec := { legalEntity := ⟨"Example Corp", "entity-1"⟩ }
  status := {}

example :
    (markedTwice.afterChanges [.add, .remove, .add]).metadata.finalizers =
      ["custodian", "custodian", Finalizers.claimMarker] := by
  decide

end Object

end ClaimOperator

import ClaimOperator.Resource.Object

/-! Finalizers: markers that hold an object in the store until each is taken off.

A marker is added at the end unless it is there already, and every occurrence of
it is removed at once. The finalizers of other controllers keep their order.
-/

set_option autoImplicit false

namespace ClaimOperator

namespace Finalizers

def insert (finalizers : List String) (marker : String) : List String :=
  if marker ∈ finalizers then finalizers else finalizers ++ [marker]

def remove (finalizers : List String) (marker : String) : List String :=
  finalizers.filter (· ≠ marker)

@[simp] theorem mem_insert (finalizers : List String) (marker other : String) :
    other ∈ insert finalizers marker ↔ other ∈ finalizers ∨ other = marker := by
  unfold insert
  split
  · next present =>
    constructor
    · exact Or.inl
    · rintro (member | rfl) <;> assumption
  · simp

@[simp] theorem mem_remove (finalizers : List String) (marker other : String) :
    other ∈ remove finalizers marker ↔ other ∈ finalizers ∧ other ≠ marker := by
  simp [remove]

/-- The marker that keeps a claim while its reference may exist. -/
def claimMarker : String := "finalizer.gcp.managed.openshift.io"

end Finalizers

inductive MarkerChange where
  | add
  | remove
  deriving DecidableEq, Repr

namespace Object

def hasMarker (claim : Claim) : Bool := claim.metadata.finalizers.contains Finalizers.claimMarker

def addMarker (claim : Claim) : Claim :=
  { claim with metadata.finalizers := Finalizers.insert claim.metadata.finalizers Finalizers.claimMarker }

def removeMarker (claim : Claim) : Claim :=
  { claim with metadata.finalizers := Finalizers.remove claim.metadata.finalizers Finalizers.claimMarker }

/-- Whether there was anything to change, and the claim afterwards. -/
def changeMarker (claim : Claim) : MarkerChange → Bool × Claim
  | .add => if claim.hasMarker then (false, claim) else (true, claim.addMarker)
  | .remove => if claim.hasMarker then (true, claim.removeMarker) else (false, claim)

@[simp] theorem hasMarker_addMarker (claim : Claim) : claim.addMarker.hasMarker = true := by
  simp [hasMarker, addMarker]

@[simp] theorem hasMarker_removeMarker (claim : Claim) : claim.removeMarker.hasMarker = false := by
  simp [hasMarker, removeMarker]

end Object

end ClaimOperator

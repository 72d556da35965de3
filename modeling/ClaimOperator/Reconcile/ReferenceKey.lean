import ClaimOperator.Resource.Object

/-! Which reference belongs to a claim.

The name of a reference is made from the claim's namespace and name, and all
references live in one namespace.
-/

set_option autoImplicit false

namespace ClaimOperator

def defaultReferenceSpace : String := "gcp-project-operator"

namespace ObjectKey

def referenceName (claim : ObjectKey) : String := claim.space ++ "-" ++ claim.name

def referenceKey (claim : ObjectKey) (referenceSpace : String) : ObjectKey :=
  ⟨referenceSpace, claim.referenceName⟩

end ObjectKey

namespace Object

def draftReference (claim : Claim) (referenceSpace : String) : Reference where
  metadata := { key := claim.key.referenceKey referenceSpace }
  spec := { legalEntity := claim.spec.legalEntity, claimLink := claim.key }
  status := {}

end Object

end ClaimOperator

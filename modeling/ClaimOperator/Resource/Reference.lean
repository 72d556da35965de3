import ClaimOperator.Resource.Claim

/-! The reference: the provisioning state of the project behind a claim. -/

set_option autoImplicit false

namespace ClaimOperator

inductive ReferencePhase where
  | creating
  | ready
  | error
  deriving DecidableEq, Repr, Inhabited

namespace ReferencePhase

def text : ReferencePhase → String
  | creating => "Creating"
  | ready => "Ready"
  | error => "Error"

instance : Enumeration ReferencePhase where
  text := text
  members := [creating, ready, error]
  complete member := by cases member <;> decide
  apart := @fun first second => by cases first <;> cases second <;> decide

def ofText? : String → Option ReferencePhase := Enumeration.ofText?

end ReferencePhase

/-- The project id is filled in by provisioning; the legal entity is copied once, on creation. -/
structure ReferenceSpec where
  legalEntity : LegalEntity
  projectId : String := ""
  claimLink : ObjectKey := {}
  deriving DecidableEq, Repr

structure ReferenceStatus where
  phase : Option ReferencePhase := none
  deriving DecidableEq, Repr

end ClaimOperator

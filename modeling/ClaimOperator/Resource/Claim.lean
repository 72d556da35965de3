import ClaimOperator.Resource.Key
import ClaimOperator.Time.Timestamp

/-! The claim: a request for a provisioned project. -/

set_option autoImplicit false

namespace ClaimOperator

/-- The coarse stage of a claim. A claim that no pass has touched has none. -/
inductive ClaimPhase where
  | pending
  | pendingProject
  | ready
  | error
  deriving DecidableEq, Repr, Inhabited

namespace ClaimPhase

def text : ClaimPhase → String
  | pending => "Pending"
  | pendingProject => "PendingProject"
  | ready => "Ready"
  | error => "Error"

instance : Enumeration ClaimPhase where
  text := text
  members := [pending, pendingProject, ready, error]
  complete member := by cases member <;> decide
  apart := @fun first second => by cases first <;> cases second <;> decide

def ofText? : String → Option ClaimPhase := Enumeration.ofText?

def parse : String → Except UnknownMember ClaimPhase := Enumeration.parse "ClaimPhase"

end ClaimPhase

inductive ConditionStatus where
  | isTrue
  | isFalse
  | unknown
  deriving DecidableEq, Repr, Inhabited

namespace ConditionStatus

def text : ConditionStatus → String
  | isTrue => "True"
  | isFalse => "False"
  | unknown => "Unknown"

instance : Enumeration ConditionStatus where
  text := text
  members := [isTrue, isFalse, unknown]
  complete member := by cases member <;> decide
  apart := @fun first second => by cases first <;> cases second <;> decide

def ofText? : String → Option ConditionStatus := Enumeration.ofText?

def parse : String → Except UnknownMember ConditionStatus := Enumeration.parse "ConditionStatus"

def ofBool (value : Bool) : ConditionStatus := if value then isTrue else isFalse

end ConditionStatus

/-- One condition of a claim's status. Other controllers add conditions of their own types. -/
structure Condition where
  type : String
  status : ConditionStatus
  reason : String
  message : String
  transitionTime : Timestamp
  probeTime : Timestamp
  deriving DecidableEq, Repr

def errorConditionType : String := "Error"

def Condition.isTracked (condition : Condition) : Bool := condition.type = errorConditionType

structure LegalEntity where
  name : String
  id : String
  deriving DecidableEq, Repr, Inhabited

structure ClaimSpec where
  legalEntity : LegalEntity
  region : String := ""
  credentialSecret : ObjectKey := {}
  projectId : String := ""
  referenceLink : ObjectKey := {}
  deriving DecidableEq, Repr

/-- The conditions are absent until they are initialised, which is not the same as empty. -/
structure ClaimStatus where
  phase : Option ClaimPhase := none
  conditions : Option (List Condition) := none
  deriving DecidableEq, Repr

end ClaimOperator

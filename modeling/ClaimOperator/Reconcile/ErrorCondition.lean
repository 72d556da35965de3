import ClaimOperator.Resource.Claim

/-! The error condition of a claim: one entry among the conditions of its status.

The first condition of the tracked type is the one that counts. Writing changes
that entry in place or appends one; its transition time moves only when the
status changes, its probe time always. A condition that was never recorded is
recorded only as true.
-/

set_option autoImplicit false

namespace ClaimOperator

structure ConditionUpdate where
  status : ConditionStatus
  reason : String
  message : String
  deriving DecidableEq, Repr

namespace ConditionUpdate

def entry (update : ConditionUpdate) (now : Timestamp) : Condition where
  type := errorConditionType
  status := update.status
  reason := update.reason
  message := update.message
  transitionTime := now
  probeTime := now

def revise (update : ConditionUpdate) (now : Timestamp) (existing : Condition) : Condition :=
  { existing with
    status := update.status
    reason := update.reason
    message := update.message
    transitionTime := if existing.status = update.status then existing.transitionTime else now
    probeTime := now }

/-- The conditions after the update, or nothing when there is nothing to write. -/
def applyTo? (update : ConditionUpdate) (now : Timestamp) : List Condition → Option (List Condition)
  | [] => if update.status = .isTrue then some [update.entry now] else none
  | condition :: rest =>
    if condition.isTracked then some (update.revise now condition :: rest)
    else (update.applyTo? now rest).map (condition :: ·)

end ConditionUpdate

namespace ClaimStatus

def errorCondition? (status : ClaimStatus) : Option Condition :=
  (status.conditions.getD []).find? Condition.isTracked

def update? (status : ClaimStatus) (update : ConditionUpdate) (now : Timestamp) : Option ClaimStatus :=
  (update.applyTo? now (status.conditions.getD [])).map fun conditions =>
    { status with conditions := some conditions }

end ClaimStatus

end ClaimOperator

import ClaimOperator.Resource.Claim

/-! Which phase a claim may enter.

`pending` is entered only from an unset phase and `pendingProject` only from
`pending`, so a repeated call cannot move a claim back. The later phases are
gated by those who write them.
-/

set_option autoImplicit false

namespace ClaimOperator.ClaimPhase

def canFollow (target : ClaimPhase) (current : Option ClaimPhase) : Bool :=
  if current = some target then false
  else
    match target with
    | pending => current = none
    | pendingProject => current = some pending
    | _ => true

theorem pending_canFollow_iff (current : Option ClaimPhase) :
    pending.canFollow current = true ↔ current = none := by
  cases current with
  | none => decide
  | some phase => cases phase <;> decide

theorem pendingProject_canFollow_iff (current : Option ClaimPhase) :
    pendingProject.canFollow current = true ↔ current = some pending := by
  cases current with
  | none => decide
  | some phase => cases phase <;> decide

end ClaimOperator.ClaimPhase

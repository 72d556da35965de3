import ClaimOperator.Json.Basic

/-! One JSON object laid over another.

Objects that meet under the same key are merged field by field; any other value
of the overlay takes the place of what lies below it. Fields that only the base
has stay where they are, and new ones follow in the overlay's order.
-/

set_option autoImplicit false

namespace ClaimOperator.Json

mutual

def overlay (base upper : Json) : Json :=
  match base, upper with
  | .object base, .object upper => .object (overlayFields base upper)
  | _, upper => upper

def overlayFields (base upper : List (String × Json)) : List (String × Json) :=
  match upper with
  | [] => base
  | (key, value) :: rest =>
    let value := match Fields.get? base key with
      | some current => overlay current value
      | none => value
    overlayFields (Fields.put base key value) rest

end

end ClaimOperator.Json

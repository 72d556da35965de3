import ClaimOperator.Json.Basic
import ClaimOperator.Number.Shortest
import ClaimOperator.Text.Quoted

/-! JSON values as messages show them.

A text on its own is shown as it is; inside an array or object it is quoted. The
three constants are written `None`, `True` and `False`.
-/

set_option autoImplicit false

namespace ClaimOperator.Json

mutual

def displayInside : Json → String
  | .null => "None"
  | .bool value => if value then "True" else "False"
  | .integer value => Text.decimalInt value
  | .real value => value.text
  | .string value => Text.quote value
  | .array items => "[" ++ String.intercalate ", " (displayItems items) ++ "]"
  | .object fields => "\x7b" ++ String.intercalate ", " (displayFields fields) ++ "\x7d"

def displayItems : List Json → List String
  | [] => []
  | item :: rest => displayInside item :: displayItems rest

def displayFields : List (String × Json) → List String
  | [] => []
  | (key, value) :: rest => (Text.quote key ++ ": " ++ displayInside value) :: displayFields rest

end

def display : Json → String
  | .string value => value
  | value => displayInside value

end ClaimOperator.Json

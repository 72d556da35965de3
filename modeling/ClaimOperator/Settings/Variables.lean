import ClaimOperator.Text.Blank
import ClaimOperator.Text.Quoted

/-! Environment variables, and what is wrong with them.

A variable that holds only blanks counts as unset, except where a required value
is handed on as it stands.
-/

set_option autoImplicit false

namespace ClaimOperator

abbrev Environment := List (String × String)

inductive SettingError where
  | missing (names : List String)
  | notBoolean (name value : String)
  | notNumber (name value : String)
  | unsupportedBackend (value : String) (choices : List String)
  deriving DecidableEq, Repr

/-- Missing names are listed in order, as often as they were asked for. -/
def SettingError.message : SettingError → String
  | missing names =>
    "Missing configuration for: " ++ String.intercalate ", " (names.mergeSort fun a b => a ≤ b)
  | notBoolean name value => "Invalid boolean for " ++ name ++ ": " ++ Text.quote value
  | notNumber name value => "Invalid " ++ name ++ ": " ++ Text.quote value
  | unsupportedBackend value choices =>
    "Unsupported backend " ++ Text.quote value ++ " (expected one of: " ++
      String.intercalate ", " choices ++ ")"

namespace Environment

def get? (env : Environment) (name : String) : Option String := List.lookup name env

/-- The value of a variable that is more than blanks. -/
def filled? (env : Environment) (name : String) : Option String :=
  (env.get? name).filter fun value => !Text.isBlankText value

def require (env : Environment) (names : List String) : Except SettingError (List (String × String)) :=
  match names.filter fun name => (env.filled? name).isNone with
  | [] => .ok (names.filterMap fun name => (env.filled? name).map (name, ·))
  | missing => .error (.missing missing)

def trimmed? (env : Environment) (name : String) : Option String := (env.filled? name).map Text.trim

def booleanWords : List (String × Bool) :=
  [("1", true), ("true", true), ("yes", true), ("on", true),
    ("0", false), ("false", false), ("no", false), ("off", false)]

def flag (env : Environment) (name : String) (default : Bool) : Except SettingError Bool :=
  match env.trimmed? name with
  | none => .ok default
  | some value =>
    match booleanWords.lookup value.toLower with
    | some meaning => .ok meaning
    | none => .error (.notBoolean name value)

end Environment

end ClaimOperator

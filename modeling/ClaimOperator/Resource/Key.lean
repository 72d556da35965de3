import ClaimOperator.Text.Enumeration

/-! What identifies a stored object: its kind, its namespace and its name. -/

set_option autoImplicit false

namespace ClaimOperator

/-- A namespace and a name. Links between objects are keys too; a link that was never set is empty. -/
structure ObjectKey where
  space : String := ""
  name : String := ""
  deriving DecidableEq, Repr, Inhabited

namespace ObjectKey

def isEmpty (key : ObjectKey) : Bool := key.space = "" && key.name = ""

def text (key : ObjectKey) : String := key.space ++ "/" ++ key.name

end ObjectKey

inductive Kind where
  | claim
  | reference
  deriving DecidableEq, Repr, Inhabited

namespace Kind

def text : Kind → String
  | claim => "ProjectClaim"
  | reference => "ProjectReference"

instance : Enumeration Kind where
  text := text
  members := [claim, reference]
  complete member := by cases member <;> decide
  apart := @fun first second => by cases first <;> cases second <;> decide

def ofText? : String → Option Kind := Enumeration.ofText?

end Kind

/-- Listings go by kind, then by namespace, then by name. -/
def listedBefore (a b : Kind × ObjectKey) : Bool :=
  (compareLex (compareOn (·.1.text)) (compareLex (compareOn (·.2.space)) (compareOn (·.2.name))) a b).isLE

end ClaimOperator

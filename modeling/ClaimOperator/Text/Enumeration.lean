import ClaimOperator.Text.Quoted

/-! Enumerations that are read and written by the texts of their members. -/

set_option autoImplicit false

namespace ClaimOperator

class Enumeration (α : Type) where
  text : α → String
  members : List α
  complete : ∀ member, member ∈ members
  apart : ∀ {first second : α}, text first = text second → first = second

structure UnknownMember where
  value : String
  enumeration : String
  deriving DecidableEq, Repr

def UnknownMember.message (unknown : UnknownMember) : String :=
  Text.quote unknown.value ++ " is not a valid " ++ unknown.enumeration

namespace Enumeration

variable {α : Type} [Enumeration α]

def ofText? (name : String) : Option α := members.find? (text · = name)

theorem ofText?_text (member : α) : ofText? (text member) = some member := by
  unfold ofText?
  cases found : members.find? fun other : α => text other = text member with
  | none => exact absurd (List.find?_eq_none.mp found member (complete member)) (by simp)
  | some other =>
    have same : text other = text member := by simpa using List.find?_some found
    rw [apart same]

def parse (enumeration name : String) : Except UnknownMember α :=
  match ofText? name with
  | some member => .ok member
  | none => .error ⟨name, enumeration⟩

end Enumeration

end ClaimOperator

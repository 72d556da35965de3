import ClaimOperator.Reconcile.ReferenceKey
import ClaimOperator.Resource.Key
import ClaimOperator.Settings.Variables

/-! Settings of the operator as a whole: which store it uses, and where references live. -/

set_option autoImplicit false

namespace ClaimOperator

inductive Backend where
  | sqlite
  | kubernetes
  deriving DecidableEq, Repr

namespace Backend

def text : Backend → String
  | sqlite => "sqlite"
  | kubernetes => "kubernetes"

instance : Enumeration Backend where
  text := text
  members := [sqlite, kubernetes]
  complete member := by cases member <;> decide
  apart := @fun first second => by cases first <;> cases second <;> decide

def ofText? : String → Option Backend := Enumeration.ofText?

def names : List String := Enumeration.members.map text

def parse : String → Except UnknownMember Backend := Enumeration.parse "Backend"

end Backend

structure OperatorSettings where
  referenceSpace : String := defaultReferenceSpace
  backend : Backend := .sqlite
  deriving DecidableEq, Repr

namespace OperatorSettings

/-- A backend that is named outright is not trimmed, and goes before the environment. -/
def backendText (env : Environment) (named : Option String) : String :=
  match named.filter (· ≠ "") with
  | some name => name
  | none => (env.trimmed? "PROJCLAIM_BACKEND").getD Backend.sqlite.text

def load (env : Environment) (named : Option String) : Except SettingError OperatorSettings :=
  let text := backendText env named
  match Backend.ofText? text with
  | some backend =>
    .ok ⟨(env.trimmed? "PROJECT_REFERENCE_NAMESPACE").getD defaultReferenceSpace, backend⟩
  | none => .error (.unsupportedBackend text Backend.names)

end OperatorSettings

end ClaimOperator

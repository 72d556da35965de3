import ClaimOperator.Manifest.Codec

/-! Why a request to a store fails.

A store error says what the store refused, and whoever asked may try again on a
fresh read. The other failures say that an answer could not be understood; they
are never recorded on a claim.
-/

set_option autoImplicit false

namespace ClaimOperator

inductive StoreOperation where
  | get
  | create
  | update
  | updateStatus
  | delete
  deriving DecidableEq, Repr

namespace StoreOperation

def text : StoreOperation → String
  | get => "get"
  | create => "create"
  | update => "update"
  | updateStatus => "update_status"
  | delete => "delete"

instance : Enumeration StoreOperation where
  text := text
  members := [get, create, update, updateStatus, delete]
  complete member := by cases member <;> decide
  apart := @fun first second => by cases first <;> cases second <;> decide

def ofText? : String → Option StoreOperation := Enumeration.ofText?

end StoreOperation

namespace StoreError

inductive Category where
  | notFound
  | alreadyExists
  | conflict
  | other
  deriving DecidableEq, Repr

end StoreError

inductive StoreError where
  | notFound (kind : Kind) (key : ObjectKey)
  | alreadyExists (kind : Kind) (key : ObjectKey)
  | stale (kind : Kind) (key : ObjectKey) (carried : String) (stored : Option String)
  | overtaken (kind : Kind) (key : ObjectKey)
  | rejected (category : StoreError.Category) (method : String) (kind : Kind) (key : ObjectKey)
      (status : Nat) (reason : String)
  | unreachable (method path : String) (kind : Kind) (key : ObjectKey) (detail : String)
  | injected (category : StoreError.Category) (message : String)
  deriving DecidableEq, Repr

namespace StoreError

def category : StoreError → Category
  | notFound .. => .notFound
  | alreadyExists .. => .alreadyExists
  | stale .. | overtaken .. => .conflict
  | rejected category .. => category
  | unreachable .. => .other
  | injected category _ => category

/-- What the error is about, if the store itself raised it. -/
def subject? : StoreError → Option (Kind × ObjectKey)
  | notFound kind key | alreadyExists kind key | stale kind key .. | overtaken kind key
  | rejected _ _ kind key .. | unreachable _ _ kind key _ => some (kind, key)
  | injected .. => none

def message : StoreError → String
  | notFound kind key => kind.text ++ " " ++ key.text ++ " not found"
  | alreadyExists kind key => kind.text ++ " " ++ key.text ++ " already exists"
  | stale kind key carried stored =>
    kind.text ++ " " ++ key.text ++ " was modified: have version " ++ carried ++ ", store has " ++
      stored.getD "None"
  | overtaken kind key => kind.text ++ " " ++ key.text ++ " was modified concurrently"
  | rejected _ method kind key status reason =>
    method ++ " " ++ kind.text ++ " " ++ key.text ++ " failed with " ++ Text.decimal status ++ ": " ++ reason
  | unreachable method path _ _ detail => method ++ " " ++ path ++ " failed: " ++ detail
  | injected _ message => message

end StoreError

/-- A request over HTTP that cannot be sent, or an answer that cannot be used. -/
inductive ExchangeError where
  | invalidTarget
  | unwritableNumber
  | notJson
  | aborted (cause : String)
  deriving DecidableEq, Repr

def ExchangeError.message : ExchangeError → String
  | unwritableNumber => "Out of range float values are not JSON compliant"
  | _ => ""

/-- A remembered answer that is no object, and cannot be read as a list of pairs either. -/
inductive BaseError where
  | notPairs
  | wrongLength (position length : Nat)
  deriving DecidableEq, Repr

def BaseError.message : BaseError → String
  | notPairs => ""
  | wrongLength position length =>
    "dictionary update sequence element #" ++ Text.decimal position ++ " has length " ++
      Text.decimal length ++ "; 2 is required"

/-- A breakdown that has nothing to do with what was asked of the store. -/
inductive Breakdown where
  | runtime (message : String)
  | value (message : String)
  deriving DecidableEq, Repr

inductive Failure where
  | store (error : StoreError)
  | manifest (error : Manifest.Error)
  | exchange (error : ExchangeError)
  | base (error : BaseError)
  | breakdown (cause : Breakdown)
  deriving DecidableEq, Repr

end ClaimOperator

import ClaimOperator.Time.Reading

/-! Reading JSON against an expected shape, with every issue reported.

A reader goes on after an issue, so one answer names all of them, in the order
of the fields in the schema. A field has two spellings, the written one and a
plain one; the written one wins, and issues are reported under the spelling that was
found. Fields that no reader asks for are never looked at.
-/

set_option autoImplicit false

namespace ClaimOperator.Manifest

inductive IssueKind where
  | missing
  | stringType
  | listType
  | literalError
  | modelType
  | datetimeType
  | datetimeFromDateParsing
  | datetimeParsing
  deriving DecidableEq, Repr

def IssueKind.text : IssueKind → String
  | missing => "missing"
  | stringType => "string_type"
  | listType => "list_type"
  | literalError => "literal_error"
  | modelType => "model_type"
  | datetimeType => "datetime_type"
  | datetimeFromDateParsing => "datetime_from_date_parsing"
  | datetimeParsing => "datetime_parsing"

inductive Segment where
  | key (name : String)
  | index (position : Nat)
  deriving DecidableEq, Repr

structure Issue where
  kind : IssueKind
  location : List Segment
  deriving DecidableEq, Repr

/-- A value, or all the issues that stand in its way. -/
inductive Checked (α : Type) where
  | valid (value : α)
  | invalid (issues : List Issue)

namespace Checked

variable {α β : Type}

instance : Applicative Checked where
  pure := .valid
  seq f x :=
    match f, x () with
    | .valid f, .valid a => .valid (f a)
    | .valid _, .invalid later => .invalid later
    | .invalid issues, .valid _ => .invalid issues
    | .invalid issues, .invalid later => .invalid (issues ++ later)

def issue (kind : IssueKind) : Checked α := .invalid [⟨kind, []⟩]

def under (segment : Segment) : Checked α → Checked α
  | .valid value => .valid value
  | .invalid issues =>
    .invalid (issues.map fun issue => { issue with location := segment :: issue.location })

end Checked

abbrev Reader (α : Type) := Json → Checked α

namespace Reader

variable {α : Type}

def string : Reader String
  | .string text => .valid text
  | _ => .issue .stringType

def literal (expected : String) : Reader Unit
  | .string text => if text = expected then .valid () else .issue .literalError
  | _ => .issue .literalError

def timestamp : Reader Timestamp := fun value =>
  match Timestamp.ofJson value with
  | .ok stamp => .valid stamp
  | .error .wrongType => .issue .datetimeType
  | .error .unreadable => .issue .datetimeFromDateParsing
  | .error .outOfRange => .issue .datetimeParsing

def nullable (read : Reader α) : Reader (Option α)
  | .null => .valid none
  | value => some <$> read value

def items (read : Reader α) (position : Nat) : List Json → Checked (List α)
  | [] => .valid []
  | item :: rest =>
    List.cons <$> (read item).under (.index position) <*> items read (position + 1) rest

def list (read : Reader α) : Reader (List α)
  | .array values => items read 0 values
  | _ => .issue .listType

def object (read : Json.Fields → Checked α) : Reader α
  | .object fields => read fields
  | _ => .issue .modelType

end Reader

structure Label where
  written : String
  plain : String := written
  deriving DecidableEq, Repr

namespace Label

variable {α : Type}

def find? (label : Label) (fields : Json.Fields) : Option (String × Json) :=
  match fields.get? label.written with
  | some value => some (label.written, value)
  | none => (fields.get? label.plain).map (label.plain, ·)

def required (label : Label) (read : Reader α) (fields : Json.Fields) : Checked α :=
  match label.find? fields with
  | some (name, value) => (read value).under (.key name)
  | none => (Checked.issue .missing).under (.key label.written)

def optional (label : Label) (read : Reader α) (default : α) (fields : Json.Fields) : Checked α :=
  match label.find? fields with
  | some (name, value) => (read value).under (.key name)
  | none => .valid default

end Label

end ClaimOperator.Manifest

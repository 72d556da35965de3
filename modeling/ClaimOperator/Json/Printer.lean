import ClaimOperator.Json.Basic
import ClaimOperator.Number.Shortest
import ClaimOperator.Text.Quoted

/-! JSON as text: on one line without blanks, or over several lines with two spaces a level.

The quotation mark, the backslash and the control characters are escaped always;
whether all other characters outside ASCII are escaped as well is the caller's choice.
-/

set_option autoImplicit false

namespace ClaimOperator.Json

def units16 (c : Char) : List Nat :=
  let code := c.toNat
  if code < 0x10000 then [code]
  else [0xD800 + (code - 0x10000) / 0x400, 0xDC00 + (code - 0x10000) % 0x400]

def escapeUnit (unit : Nat) : List Char := ['\\', 'u'] ++ Text.hexPadded 4 unit

def escapeChar (asciiOnly : Bool) (c : Char) : List Char :=
  if c = '"' then ['\\', '"']
  else if c = '\\' then ['\\', '\\']
  else if c = '\n' then ['\\', 'n']
  else if c = '\r' then ['\\', 'r']
  else if c = '\t' then ['\\', 't']
  else if c.toNat = 0x08 then ['\\', 'b']
  else if c.toNat = 0x0C then ['\\', 'f']
  else if c.toNat < 0x20 then escapeUnit c.toNat
  else if asciiOnly && 0x7F ≤ c.toNat then (units16 c).flatMap escapeUnit
  else [c]

def quoteString (asciiOnly : Bool) (text : String) : String :=
  "\"" ++ String.ofList (text.toList.flatMap (escapeChar asciiOnly)) ++ "\""

def realText : Number.Binary64 → String
  | .nan => "NaN"
  | .infinite negative => if negative then "-Infinity" else "Infinity"
  | number => number.text

structure Spacing where
  opening : Nat → String
  between : Nat → String
  closing : Nat → String
  afterKey : String

def Spacing.compact : Spacing := ⟨fun _ => "", fun _ => ",", fun _ => "", ":"⟩

def lineAt (depth : Nat) : String := "\n" ++ String.ofList (List.replicate (2 * depth) ' ')

def Spacing.indented : Spacing :=
  ⟨fun depth => lineAt (depth + 1), fun depth => "," ++ lineAt (depth + 1), lineAt, ": "⟩

def enclose (spacing : Spacing) (depth : Nat) (left right : String) (parts : List String) : String :=
  if parts.isEmpty then left ++ right
  else left ++ spacing.opening depth ++ String.intercalate (spacing.between depth) parts ++
    spacing.closing depth ++ right

mutual

def write (spacing : Spacing) (asciiOnly : Bool) (depth : Nat) : Json → String
  | .null => "null"
  | .bool value => if value then "true" else "false"
  | .integer value => Text.decimalInt value
  | .real value => realText value
  | .string value => quoteString asciiOnly value
  | .array items => enclose spacing depth "[" "]" (writeItems spacing asciiOnly (depth + 1) items)
  | .object fields =>
    enclose spacing depth "\x7b" "\x7d" (writeFields spacing asciiOnly (depth + 1) fields)

def writeItems (spacing : Spacing) (asciiOnly : Bool) (depth : Nat) : List Json → List String
  | [] => []
  | item :: rest => write spacing asciiOnly depth item :: writeItems spacing asciiOnly depth rest

def writeFields (spacing : Spacing) (asciiOnly : Bool) (depth : Nat) :
    List (String × Json) → List String
  | [] => []
  | (key, value) :: rest =>
    (quoteString asciiOnly key ++ spacing.afterKey ++ write spacing asciiOnly depth value) ::
      writeFields spacing asciiOnly depth rest

end

def compact (value : Json) : String := value.write .compact false 0

def indented (value : Json) : String := value.write .indented true 0

end ClaimOperator.Json

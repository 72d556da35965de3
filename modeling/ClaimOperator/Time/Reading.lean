import ClaimOperator.Json.Basic
import ClaimOperator.Number.Reading
import ClaimOperator.Time.Timestamp

/-! Reading a timestamp from a JSON value.

A text is a date and a time in the form of RFC 3339, or a number of seconds since
1970, or a bare date, which stands for its midnight. Between date and time stands
`T`, `t`, a space or an underscore; the seconds may be missing; a fraction follows
a point or a comma and is cut to six digits; the offset may be missing, and its
colon too. A number is in seconds, or in milliseconds when it exceeds twenty
thousand million, and lies between the years 1600 and 9999.
-/

set_option autoImplicit false

namespace ClaimOperator.Timestamp

open Time

inductive ReadError where
  | wrongType
  | unreadable
  | outOfRange
  deriving DecidableEq, Repr

def takeDigits (start : Nat) : Nat → List Char → Option (Nat × List Char)
  | 0, text => some (start, text)
  | _ + 1, [] => none
  | count + 1, c :: rest => do
    let digit ← Text.asciiDigit? c
    takeDigits (start * 10 + digit) count rest

def takeChar (expected : Char → Bool) : List Char → Option (List Char)
  | c :: rest => if expected c then some rest else none
  | [] => none

/-- A year, month and day that go together; the year may be zero. -/
def readDate (text : List Char) : Option ((Nat × Nat × Nat) × List Char) := do
  let (year, text) ← takeDigits 0 4 text
  let text ← takeChar (· = '-') text
  let (month, text) ← takeDigits 0 2 text
  let text ← takeChar (· = '-') text
  let (day, text) ← takeDigits 0 2 text
  if IsMonthDay year month day then some ((year, month, day), text) else none

def microsOfDigits (digits : List Nat) : Nat :=
  Text.ofDigits 0 ((digits ++ List.replicate 6 0).take 6)

def readFraction (text : List Char) : Option (Nat × List Char) :=
  match text with
  | mark :: rest =>
    if mark = '.' ∨ mark = ',' then
      match Text.leadingDigits rest with
      | ([], _) => none
      | (digits, rest) => some (microsOfDigits digits, rest)
    else some (0, text)
  | [] => some (0, [])

def readSeconds (text : List Char) : Option ((Nat × Nat) × List Char) :=
  match text with
  | ':' :: rest => do
    let (second, rest) ← takeDigits 0 2 rest
    let (micros, rest) ← readFraction rest
    some ((second, micros), rest)
  | _ => some ((0, 0), text)

def readTime (text : List Char) : Option (TimeOfDay × List Char) := do
  let (hour, text) ← takeDigits 0 2 text
  let text ← takeChar (· = ':') text
  let (minute, text) ← takeDigits 0 2 text
  let ((second, micros), text) ← readSeconds text
  let time ← TimeOfDay.of? hour minute second micros
  some (time, text)

def Offset.of? (minutes : Int) : Option Offset :=
  if inDay : minutes.natAbs < 1440 then some ⟨minutes, inDay⟩ else none

def isMinus (c : Char) : Bool := c = '-' || c = '\u2212'

def readOffset (text : List Char) : Option (Option Offset × List Char) :=
  match text with
  | [] => some (none, [])
  | mark :: rest =>
    if mark = 'Z' ∨ mark = 'z' then some (some .utc, rest)
    else if mark = '+' ∨ isMinus mark then do
      let (hours, rest) ← takeDigits 0 2 rest
      let (minutes, rest) ← takeDigits 0 2 ((takeChar (· = ':') rest).getD rest)
      let total : Int := (hours * 60 + minutes : Nat)
      let offset ← if minutes < 60 then Offset.of? (if isMinus mark then -total else total) else none
      some (some offset, rest)
    else none

def isSeparator (c : Char) : Bool := c = 'T' || c = 't' || c = ' ' || c = '_'

def readDateTime (text : List Char) : Option ((Nat × Nat × Nat) × TimeOfDay × Option Offset) := do
  let (date, text) ← readDate text
  let text ← takeChar isSeparator text
  let (time, text) ← readTime text
  let (offset, text) ← readOffset text
  if text.isEmpty then some (date, time, offset) else none

/-- The greatest absolute value that counts seconds and not milliseconds. -/
def secondsLimit : Nat := 20000000000

def leastUnixSecond : Int := -11676096000

def greatestUnixSecond : Int := 253402300799

def ofUnix? (count : Int) (micros : Nat) : Option Timestamp :=
  let total : Int :=
    if count.natAbs ≤ secondsLimit then count * 1000000 + micros else count * 1000 + micros
  let second := total.fdiv 1000000
  if leastUnixSecond ≤ second ∧ second ≤ greatestUnixSecond then ofUnixMicros? total else none

open Number in
/-- A binary number's whole part below it, and the distance from that in microseconds. -/
def splitSeconds (negative : Bool) (mantissa : Nat) (exponent : Int) : Int × Nat :=
  let (num, den) := Binary64.ratio mantissa exponent
  let whole : Int := if negative then -(((num + den - 1) / den : Nat) : Int) else (num / den : Nat)
  let fraction := (if negative then (den - num % den) % den else num % den)
  match Binary64.ofRatio false (fraction * 1000000) den with
  | .finite _ mantissa exponent =>
    let (num, den) := Binary64.ratio mantissa exponent
    (whole, roundHalfUp num den)
  | _ => (whole, 0)

open Number in
/-- A JSON number with a fraction. The microseconds are those of the fraction without its sign,
counted up from the whole number below. -/
def ofReal? : Binary64 → Option Timestamp
  | .finite negative mantissa exponent =>
    let (_, micros) := splitSeconds false mantissa exponent
    let (whole, _) := splitSeconds negative mantissa exponent
    ofUnix? whole micros
  | _ => none

open Number in
/-- A number with a fraction that was written as text: milliseconds become seconds first. -/
def ofRealText? : Binary64 → Option Timestamp
  | .finite negative mantissa exponent =>
    let (num, den) := Binary64.ratio mantissa exponent
    let inSeconds := if secondsLimit * den < num then Binary64.ofRatio negative num (den * 1000)
      else .finite negative mantissa exponent
    match inSeconds with
    | .finite negative mantissa exponent =>
      let (whole, micros) := splitSeconds negative mantissa exponent
      ofUnix? whole micros
    | _ => none
  | _ => none

/-- Text of the form `[+-]digits[.digits]`. -/
def readUnixText (text : List Char) : Option Timestamp :=
  let (negative, unsigned) := Text.splitSign text
  match Text.leadingDigits unsigned with
  | ([], _) => none
  | (whole, []) =>
    let count : Int := Text.ofDigits 0 whole
    ofUnix? (if negative then -count else count) 0
  | (whole, '.' :: rest) =>
    match Text.leadingDigits rest with
    | ([], _) => none
    | (fraction, []) =>
      ofRealText? (.ofDecimal negative (Text.ofDigits 0 (whole ++ fraction)) (-fraction.length))
    | _ => none
  | _ => none

def ofParts (date : Nat × Nat × Nat) (time : TimeOfDay) (offset : Option Offset) :
    Except ReadError Timestamp :=
  match Date.of? date.1 date.2.1 date.2.2 with
  | some date => .ok ⟨date, time, offset⟩
  | none => .error .outOfRange

def ofText (text : String) : Except ReadError Timestamp :=
  match readDateTime text.toList with
  | some (date, time, offset) => ofParts date time offset
  | none =>
    match readUnixText text.toList with
    | some stamp => .ok stamp
    | none =>
      match readDate text.toList with
      | some (date, []) => ofParts date .midnight none
      | _ => .error .unreadable

/-- An integer beyond 64 bits is out of range, and one beyond every binary number is none at all. -/
def ofInteger (count : Int) : Except ReadError Timestamp :=
  match ofUnix? count 0 with
  | some stamp => .ok stamp
  | none =>
    match Number.Binary64.ofRatio false count.natAbs 1 with
    | .infinite _ => .error .wrongType
    | _ => .error .outOfRange

def ofJson : Json → Except ReadError Timestamp
  | .string text => ofText text
  | .integer count => ofInteger count
  | .real number =>
    match ofReal? number with
    | some stamp => .ok stamp
    | none => .error .outOfRange
  | _ => .error .wrongType

end ClaimOperator.Timestamp

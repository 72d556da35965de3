import ClaimOperator.Text.Blank
import ClaimOperator.Text.Digit

/-! Decimal numerals: how whole numbers are written, and what counts as one when read.

A numeral is read with the digits of any script, blanks around it and single
underscores between digits. `plainNumeral?` removes all three, so what follows
it deals with ASCII alone.
-/

set_option autoImplicit false

namespace ClaimOperator.Text

def decimalChars (n : Nat) : List Char :=
  if n < 10 then [digitChar n] else decimalChars (n / 10) ++ [digitChar n]
termination_by n
decreasing_by omega

def decimal (n : Nat) : String := String.ofList (decimalChars n)

def decimalInt : Int → String
  | .ofNat n => decimal n
  | .negSucc n => "-" ++ decimal (n + 1)

def padded : Nat → Nat → List Char
  | 0, _ => []
  | width + 1, n => padded width (n / 10) ++ [digitChar n]

@[simp] theorem length_padded (width n : Nat) : (padded width n).length = width := by
  induction width generalizing n with
  | zero => rfl
  | succ width ih => simp [padded, ih]

def ofDigits (start : Nat) (digits : List Nat) : Nat :=
  digits.foldl (fun value digit => value * 10 + digit) start

def leadingDigits : List Char → List Nat × List Char
  | [] => ([], [])
  | c :: rest =>
    match asciiDigit? c with
    | some digit =>
      let (digits, rest) := leadingDigits rest
      (digit :: digits, rest)
    | none => ([], c :: rest)

/-- An underscore is dropped between two digits and refused anywhere else. -/
def dropGrouping (afterDigit : Bool) : List Char → Option (List Char)
  | [] => some []
  | '_' :: c :: rest =>
    if afterDigit && (asciiDigit? c).isSome then (dropGrouping true rest).map (c :: ·) else none
  | '_' :: [] => none
  | c :: rest => (dropGrouping (asciiDigit? c).isSome rest).map (c :: ·)

def plainNumeral? (text : String) : Option (List Char) :=
  let plain := text.toList.map fun c => ((digitValue? c).map digitChar).getD c
  dropGrouping false (trimEnd (trimStart plain))

def splitSign : List Char → Bool × List Char
  | '-' :: rest => (true, rest)
  | '+' :: rest => (false, rest)
  | rest => (false, rest)

/-- Integers with more digits than this are not read. -/
def integerDigitLimit : Nat := 4300

def readInteger? (text : String) : Option Int := do
  let plain ← plainNumeral? text
  let (negative, rest) := splitSign plain
  match leadingDigits rest with
  | (digit :: digits, []) =>
    if integerDigitLimit ≤ digits.length then none
    else
      let magnitude : Int := ofDigits 0 (digit :: digits)
      some (if negative then -magnitude else magnitude)
  | _ => none

end ClaimOperator.Text

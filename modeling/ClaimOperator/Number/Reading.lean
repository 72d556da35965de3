import ClaimOperator.Number.Binary64
import ClaimOperator.Text.Numeral

/-! Reading a binary number from free text: a decimal with an optional fraction and power of
ten, or one of the names `inf`, `infinity` and `nan` in any case.
-/

set_option autoImplicit false

namespace ClaimOperator.Number

structure Numeral where
  digits : Nat
  exponent : Int
  deriving DecidableEq, Repr

def readExponent? : List Char → Option Int
  | [] => some 0
  | mark :: rest =>
    if mark = 'e' ∨ mark = 'E' then
      let (negative, rest) := Text.splitSign rest
      match Text.leadingDigits rest with
      | (digit :: digits, []) =>
        let magnitude : Int := Text.ofDigits 0 (digit :: digits)
        some (if negative then -magnitude else magnitude)
      | _ => none
    else none

def readNumeral? (text : List Char) : Option Numeral := do
  let (whole, rest) := Text.leadingDigits text
  let (fraction, rest) :=
    match rest with
    | '.' :: rest => Text.leadingDigits rest
    | rest => ([], rest)
  if whole.isEmpty && fraction.isEmpty then none
  else
    let exponent ← readExponent? rest
    some ⟨Text.ofDigits 0 (whole ++ fraction), exponent - fraction.length⟩

def Binary64.ofNumeral (negative : Bool) (numeral : Numeral) : Binary64 :=
  .ofDecimal negative numeral.digits numeral.exponent

def Binary64.ofText? (text : String) : Option Binary64 := do
  let plain ← Text.plainNumeral? text
  let (negative, rest) := Text.splitSign plain
  let name := String.ofList (rest.map Char.toLower)
  if name = "inf" ∨ name = "infinity" then some (.infinite negative)
  else if name = "nan" then some .nan
  else (readNumeral? rest).map (.ofNumeral negative)

end ClaimOperator.Number

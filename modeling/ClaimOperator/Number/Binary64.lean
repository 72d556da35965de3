/-! Binary floating-point numbers of 64 bits, as exact integers.

A finite number is `±mantissa · 2^exponent` with a mantissa below `2^53` and an
exponent of at least `-1074`; the mantissa is at least `2^52` unless the exponent
is the least one. Every operation is exact on ratios of naturals and rounds once
at the end, to the nearest number and to the even mantissa on a tie.
-/

set_option autoImplicit false

namespace ClaimOperator.Number

inductive Binary64 where
  | nan
  | infinite (negative : Bool)
  | finite (negative : Bool) (mantissa : Nat) (exponent : Int)
  deriving DecidableEq, Repr, Inhabited

/-- A quotient rounded to the nearest natural, a tie to the even one. -/
def roundEven (num den : Nat) : Nat :=
  let quotient := num / den
  let twice := 2 * (num % den)
  if twice < den then quotient
  else if den < twice then quotient + 1
  else quotient + quotient % 2

def roundHalfUp (num den : Nat) : Nat := (2 * num + den) / (2 * den)

/-- The ratio divided by `2^exponent`, as numerator and denominator. -/
def scaleDown (num den : Nat) (exponent : Int) : Nat × Nat :=
  if 0 ≤ exponent then (num, den * Nat.pow 2 exponent.toNat) else (num * Nat.pow 2 (-exponent).toNat, den)

namespace Binary64

def leastExponent : Int := -1074

def ofRatio (negative : Bool) (num den : Nat) : Binary64 :=
  if num = 0 then .finite negative 0 leastExponent
  else
    let guess := max ((num.log2 : Int) - den.log2 - 53) leastExponent
    let scaled := scaleDown num den guess
    let exponent := if scaled.1 / scaled.2 < Nat.pow 2 53 then guess else guess + 1
    let scaled := scaleDown num den exponent
    let rounded := roundEven scaled.1 scaled.2
    let (mantissa, exponent) :=
      if rounded = Nat.pow 2 53 then (Nat.pow 2 52, exponent + 1) else (rounded, exponent)
    if 971 < exponent then .infinite negative else .finite negative mantissa exponent

/-- The number nearest to `±digits · 10^exponent`. The magnitude is estimated first, so that
an exponent far out of range costs nothing. -/
def ofDecimal (negative : Bool) (digits : Nat) (exponent : Int) : Binary64 :=
  let magnitude := (digits.log2 : Int) * 3 / 10 + exponent
  if digits = 0 then .finite negative 0 leastExponent
  else if 400 < magnitude then .infinite negative
  else if magnitude < -400 then .finite negative 0 leastExponent
  else if 0 ≤ exponent then ofRatio negative (digits * Nat.pow 10 exponent.toNat) 1
  else ofRatio negative digits (Nat.pow 10 (-exponent).toNat)

/-- Numerator and denominator of `mantissa · 2^exponent`. -/
def ratio (mantissa : Nat) (exponent : Int) : Nat × Nat :=
  if 0 ≤ exponent then (mantissa * Nat.pow 2 exponent.toNat, 1) else (mantissa, Nat.pow 2 (-exponent).toNat)

def isZero : Binary64 → Bool
  | .finite _ 0 _ => true
  | _ => false

end Binary64

end ClaimOperator.Number

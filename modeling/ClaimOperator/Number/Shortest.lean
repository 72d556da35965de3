import ClaimOperator.Number.Binary64
import ClaimOperator.Text.Numeral

/-! The shortest decimal text of a binary number.

Of the decimals that round back to the number the one with the fewest digits is
written, and among those the nearest. The number's two neighbours on the grid of
`count` digits are tried for `count = 1, 2, … 17`; seventeen digits always suffice.
-/

set_option autoImplicit false

namespace ClaimOperator.Number

def digitCount (n : Nat) : Nat := (Text.decimalChars n).length

/-- `⌊log₁₀ (num / den)⌋` for a positive ratio. -/
def decimalExponent (num den : Nat) : Int :=
  let guess : Int := (digitCount num : Int) - digitCount den
  let reaches := if 0 ≤ guess then den * Nat.pow 10 guess.toNat ≤ num else den ≤ num * Nat.pow 10 (-guess).toNat
  if reaches then guess else guess - 1

/-- The reals that round to a positive number, as the ends over a common denominator. -/
structure RoundingInterval where
  low : Nat
  value : Nat
  high : Nat
  den : Nat
  closed : Bool

/-- Below a power of two the numbers lie twice as close as above it. -/
def RoundingInterval.of (mantissa : Nat) (exponent : Int) : RoundingInterval :=
  let below := if mantissa = Nat.pow 2 52 ∧ Binary64.leastExponent < exponent then 1 else 2
  let (unit, den) := Binary64.ratio 1 exponent
  { low := (4 * mantissa - below) * unit
    value := 4 * mantissa * unit
    high := (4 * mantissa + 2) * unit
    den := 4 * den
    closed := mantissa % 2 = 0 }

def RoundingInterval.holds (interval : RoundingInterval) (digits : Nat) (exponent : Int) : Bool :=
  let (num, den) :=
    if 0 ≤ exponent then (digits * Nat.pow 10 exponent.toNat, 1) else (digits, Nat.pow 10 (-exponent).toNat)
  let point := num * interval.den
  if interval.closed then interval.low * den ≤ point && point ≤ interval.high * den
  else interval.low * den < point && point < interval.high * den

def RoundingInterval.neighbour? (interval : RoundingInterval) (exponent : Int) : Option Nat :=
  let (num, den) :=
    if 0 ≤ exponent then (interval.value, interval.den * Nat.pow 10 exponent.toNat)
    else (interval.value * Nat.pow 10 (-exponent).toNat, interval.den)
  -- A tie between the two neighbours goes to the even one.
  let lower := num / den
  let nearest := roundEven num den
  let other := if nearest = lower then lower + 1 else lower
  if interval.holds nearest exponent then some nearest
  else if interval.holds other exponent then some other
  else none

def RoundingInterval.shortest (interval : RoundingInterval) (top : Int) (count : Nat) : Nat → Nat × Int
  | 0 => (0, 0)
  | more + 1 =>
    let exponent := top + 1 - count
    match interval.neighbour? exponent with
    | some digits => (digits, exponent)
    | none => interval.shortest top (count + 1) more

def stripZeros (digits : List Char) (exponent : Int) : List Char × Int :=
  let kept := (digits.reverse.dropWhile (· = '0')).reverse
  (kept, exponent + (digits.length - kept.length : Nat))

/-- How a decimal is laid out: the range of point positions that are written without an exponent. -/
structure Layout where
  leastPoint : Int
  greatestPoint : Int

/-- Positional from four zeros after the point up to sixteen digits before it. -/
def plainLayout : Layout := ⟨-3, 16⟩

def Layout.write (layout : Layout) (digits : List Char) (point : Int) : List Char :=
  if layout.leastPoint ≤ point ∧ point ≤ layout.greatestPoint then
    if point ≤ 0 then ['0', '.'] ++ List.replicate (-point).toNat '0' ++ digits
    else if digits.length ≤ point.toNat then
      digits ++ List.replicate (point.toNat - digits.length) '0' ++ ['.', '0']
    else digits.take point.toNat ++ ['.'] ++ digits.drop point.toNat
  else
    let power := point - 1
    let fraction := if digits.length ≤ 1 then [] else '.' :: digits.drop 1
    let magnitude := power.natAbs
    digits.take 1 ++ fraction ++ ['e', if power < 0 then '-' else '+'] ++
      (if magnitude < 10 then Text.padded 2 magnitude else Text.decimalChars magnitude)

def Binary64.toChars : Binary64 → List Char
  | .nan => ['n', 'a', 'n']
  | .infinite negative => (if negative then ['-'] else []) ++ ['i', 'n', 'f']
  | .finite negative mantissa exponent =>
    (if negative then ['-'] else []) ++
      if mantissa = 0 then ['0', '.', '0']
      else
        let (num, den) := ratio mantissa exponent
        let top := decimalExponent num den
        let (digits, power) := (RoundingInterval.of mantissa exponent).shortest top 1 17
        let (kept, power) := stripZeros (Text.decimalChars digits) power
        plainLayout.write kept (kept.length + power)

def Binary64.text (number : Binary64) : String := String.ofList number.toChars

end ClaimOperator.Number

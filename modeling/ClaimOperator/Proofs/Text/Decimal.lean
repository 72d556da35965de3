import ClaimOperator.Text.Numeral
import Mathlib.Tactic.Ring

/-! Written numbers can be told apart, and what is written with a fixed number of digits is read back. -/

set_option autoImplicit false

namespace ClaimOperator.Text

theorem digitChar_inj {a b : Nat} (same : digitChar a = digitChar b) : a % 10 = b % 10 := by
  have digits := congrArg asciiDigit? same
  rw [asciiDigit?_digitChar, asciiDigit?_digitChar] at digits
  exact Option.some.inj digits

theorem decimalChars_ne_nil (n : Nat) : decimalChars n ≠ [] := by
  unfold decimalChars
  split <;> simp

theorem decimalChars_inj {a b : Nat} (same : decimalChars a = decimalChars b) : a = b := by
  induction a using Nat.strongRecOn generalizing b with
  | ind a ih =>
    rw [decimalChars.eq_def a, decimalChars.eq_def b] at same
    split at same <;> split at same
    · have last := digitChar_inj (List.singleton_inj.mp same)
      omega
    · have first := (List.append_eq_singleton_iff.mp same.symm).resolve_right (by simp)
      exact absurd first.1 (decimalChars_ne_nil _)
    · have first := (List.append_eq_singleton_iff.mp same).resolve_right (by simp)
      exact absurd first.1 (decimalChars_ne_nil _)
    · obtain ⟨front, last⟩ := List.append_inj' same rfl
      have tens := ih (a / 10) (by omega) front
      have units := digitChar_inj (List.singleton_inj.mp last)
      omega

theorem decimal_inj {a b : Nat} (same : decimal a = decimal b) : a = b :=
  decimalChars_inj (String.ofList_injective same)

def paddedDigits : Nat → Nat → List Nat
  | 0, _ => []
  | width + 1, n => paddedDigits width (n / 10) ++ [n % 10]

@[simp] theorem length_paddedDigits (width n : Nat) : (paddedDigits width n).length = width := by
  induction width generalizing n with
  | zero => rfl
  | succ width ih => simp [paddedDigits, ih]

theorem lt_of_mem_paddedDigits (width n : Nat) : ∀ digit ∈ paddedDigits width n, digit < 10 := by
  intro digit member
  induction width generalizing n with
  | zero => cases member
  | succ width ih =>
    rcases List.mem_append.mp member with front | last
    · exact ih _ front
    · have := List.mem_singleton.mp last
      omega

theorem map_digitChar_paddedDigits (width n : Nat) : (paddedDigits width n).map digitChar = padded width n := by
  induction width generalizing n with
  | zero => rfl
  | succ width ih =>
    have unit : digitChar (n % 10) = digitChar n := by simp [digitChar]
    simp [paddedDigits, padded, ih, unit]

theorem ofDigits_paddedDigits (start width n : Nat) :
    ofDigits start (paddedDigits width n) = start * 10 ^ width + n % 10 ^ width := by
  induction width generalizing n with
  | zero => simp [paddedDigits, ofDigits, Nat.mod_one]
  | succ width ih =>
    have split : ofDigits start (paddedDigits (width + 1) n) =
        ofDigits start (paddedDigits width (n / 10)) * 10 + n % 10 := by
      simp [paddedDigits, ofDigits]
    have low : n % 10 ^ (width + 1) = n % 10 + 10 * (n / 10 % 10 ^ width) := by
      rw [Nat.pow_succ, Nat.mul_comm, Nat.mod_mul]
    rw [split, ih, low, Nat.pow_succ]
    ring

theorem leadingDigits_map_digitChar {digits : List Nat} (small : ∀ digit ∈ digits, digit < 10)
    {rest : List Char} (ends : leadingDigits rest = ([], rest)) :
    leadingDigits (digits.map digitChar ++ rest) = (digits, rest) := by
  induction digits with
  | nil => exact ends
  | cons digit digits ih =>
    have unit : digit % 10 = digit := Nat.mod_eq_of_lt (small digit (by simp))
    have tail := ih fun other member => small other (by simp [member])
    simp [leadingDigits, asciiDigit?_digitChar, unit, tail]

end ClaimOperator.Text

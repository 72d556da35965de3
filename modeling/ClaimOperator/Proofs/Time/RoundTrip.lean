import ClaimOperator.Proofs.Text.Decimal
import ClaimOperator.Time.Reading

/-! A timestamp is read back from the text that is written for it. -/

set_option autoImplicit false

namespace ClaimOperator.Timestamp

open Time

theorem takeDigits_map_digitChar (start : Nat) {digits : List Nat} (small : ∀ digit ∈ digits, digit < 10)
    (rest : List Char) : takeDigits start digits.length (digits.map Text.digitChar ++ rest) =
      some (Text.ofDigits start digits, rest) := by
  induction digits generalizing start with
  | nil => rfl
  | cons digit digits ih =>
    have unit : digit % 10 = digit := Nat.mod_eq_of_lt (small digit (by simp))
    have tail := ih (start * 10 + digit) fun other member => small other (by simp [member])
    simpa [takeDigits, Text.asciiDigit?_digitChar, unit, Text.ofDigits] using tail

theorem takeDigits_padded {width n : Nat} (fits : n < 10 ^ width) (rest : List Char) :
    takeDigits 0 width (Text.padded width n ++ rest) = some (n, rest) := by
  have read := takeDigits_map_digitChar 0 (Text.lt_of_mem_paddedDigits width n) rest
  rw [Text.length_paddedDigits, Text.map_digitChar_paddedDigits, Text.ofDigits_paddedDigits,
    Nat.mod_eq_of_lt fits] at read
  simpa using read

theorem readDate_dateChars (date : Date) (rest : List Char) :
    readDate (dateChars date ++ rest) = some ((date.year, date.month, date.day), rest) := by
  have monthDay := date.monthDay
  have days : daysInMonth date.year date.month ≤ 31 := by
    unfold daysInMonth
    split
    · split <;> decide
    all_goals decide
  have year_fits : date.year < 10 ^ 4 := by have := date.year_le; omega
  have month_fits : date.month < 10 ^ 2 := by have := monthDay.2.1; omega
  have day_fits : date.day < 10 ^ 2 := by have := monthDay.2.2.2; omega
  simp [readDate, dateChars, takeDigits_padded year_fits, takeDigits_padded month_fits,
    takeDigits_padded day_fits, takeChar, monthDay]

def EndsSeconds (rest : List Char) : Prop :=
  Text.leadingDigits rest = ([], rest) ∧ readFraction rest = some (0, rest)

theorem readFraction_padded {micros : Nat} (fits : micros < 1000000) {rest : List Char}
    (ends : EndsSeconds rest) :
    readFraction ('.' :: Text.padded 6 micros ++ rest) = some (micros, rest) := by
  have digits := Text.leadingDigits_map_digitChar
    (Text.lt_of_mem_paddedDigits 6 micros) ends.1
  have length := Text.length_paddedDigits 6 micros
  have value := Text.ofDigits_paddedDigits 0 6 micros
  rw [Text.map_digitChar_paddedDigits] at digits
  simp only [readFraction, List.cons_append, true_or, ↓reduceIte, digits]
  cases written : Text.paddedDigits 6 micros with
  | nil => simp [written] at length
  | cons digit digits =>
    rw [written] at length value
    have whole : ((digit :: digits) ++ List.replicate 6 0).take 6 = digit :: digits := by
      rw [← length, List.take_left]
    simp only [microsOfDigits, whole, value]
    rw [Nat.mod_eq_of_lt (by omega)]
    simp

theorem readTime_timeChars (time : TimeOfDay) {rest : List Char} (ends : EndsSeconds rest) :
    readTime (timeChars time ++ rest) = some (time, rest) := by
  have hour_fits : time.hour < 10 ^ 2 := by have := time.hour_lt; omega
  have minute_fits : time.minute < 10 ^ 2 := by have := time.minute_lt; omega
  have second_fits : time.second < 10 ^ 2 := by have := time.second_lt; omega
  have fraction : readFraction ((if time.micros = 0 then [] else '.' :: Text.padded 6 time.micros) ++ rest) =
      some (time.micros, rest) := by
    split
    · next whole => rw [whole]; exact ends.2
    · exact readFraction_padded time.micros_lt ends
  simp [readTime, readSeconds, timeChars, takeDigits_padded hour_fits, takeDigits_padded minute_fits,
    takeDigits_padded second_fits, takeChar, fraction, TimeOfDay.of?_self]

theorem endsSeconds_cons {mark : Char} (digit : Text.asciiDigit? mark = none) (point : mark ≠ '.')
    (comma : mark ≠ ',') (rest : List Char) : EndsSeconds (mark :: rest) := by
  constructor
  · simp [Text.leadingDigits, digit]
  · simp [readFraction, point, comma]

theorem offsetChars_zulu (offset : Offset) : offsetChars .zulu (some offset) =
    if offset.minutes = 0 then ['Z']
    else
      (if offset.minutes < 0 then '-' else '+') :: (Text.padded 2 (offset.minutes.natAbs / 60) ++
        ':' :: Text.padded 2 (offset.minutes.natAbs % 60)) := by
  simp only [offsetChars]
  by_cases zero : offset.minutes = 0
  · simp [zero]
  · simp [zero]

theorem endsSeconds_offsetChars (offset : Option Offset) : EndsSeconds (offsetChars .zulu offset) := by
  cases offset with
  | none => exact ⟨rfl, rfl⟩
  | some offset =>
    rw [offsetChars_zulu]
    by_cases zero : offset.minutes = 0
    · rw [if_pos zero]
      apply endsSeconds_cons <;> decide
    · rw [if_neg zero]
      by_cases negative : offset.minutes < 0
      · rw [if_pos negative]
        apply endsSeconds_cons <;> decide
      · rw [if_neg negative]
        apply endsSeconds_cons <;> decide

theorem Offset.of?_eq_some {minutes : Int} (inDay : minutes.natAbs < 1440) :
    Offset.of? minutes = some ⟨minutes, inDay⟩ := dif_pos inDay

theorem readOffset_offsetChars (offset : Option Offset) :
    readOffset (offsetChars .zulu offset) = some (offset, []) := by
  cases offset with
  | none => rfl
  | some offset =>
    obtain ⟨minutes, inDay⟩ := offset
    have hours_fit : minutes.natAbs / 60 < 10 ^ 2 := by omega
    have minutes_fit : minutes.natAbs % 60 < 10 ^ 2 := by omega
    have below : minutes.natAbs % 60 < 60 := Nat.mod_lt _ (by decide)
    have last := takeDigits_padded minutes_fit []
    rw [List.append_nil] at last
    rw [offsetChars_zulu]
    by_cases zero : minutes = 0
    · subst zero
      rfl
    -- From here on only the size of the offset counts, whichever side of zero it lies on.
    · obtain ⟨size, size_eq⟩ : ∃ size, size = minutes.natAbs := ⟨_, rfl⟩
      rw [← size_eq] at hours_fit minutes_fit below last
      by_cases negative : minutes < 0
      · have value : -((size : Int) % 60) + -((size : Int) / 60 * 60) = minutes := by omega
        simp only [readOffset, zero, negative, ← size_eq, ↓reduceIte]
        simp [isMinus, takeDigits_padded hours_fit, takeChar, last, below, value, Offset.of?_eq_some inDay]
      · have value : (size : Int) / 60 * 60 + (size : Int) % 60 = minutes := by omega
        simp only [readOffset, zero, negative, ← size_eq, ↓reduceIte]
        simp [isMinus, takeDigits_padded hours_fit, takeChar, last, below, value, Offset.of?_eq_some inDay]

theorem ofText_write (stamp : Timestamp) : ofText (stamp.write .zulu) = .ok stamp := by
  have read : readDateTime (stamp.write .zulu).toList =
      some ((stamp.date.year, stamp.date.month, stamp.date.day), stamp.time, stamp.offset) := by
    simp [readDateTime, write, String.toList_ofList, List.append_assoc, readDate_dateChars, takeChar, isSeparator,
      readTime_timeChars stamp.time (endsSeconds_offsetChars stamp.offset), readOffset_offsetChars]
  simp only [ofText, read, ofParts, Date.of?_self]

end ClaimOperator.Timestamp

import ClaimOperator.Text.Numeral
import ClaimOperator.Time.Calendar

/-! Timestamps: a date, a time of day and, unless the timestamp is naive, an offset.

An offset is a whole number of minutes below 24 hours. It is kept as it was given
and never converted. A timestamp is written with six fractional digits or, on a
whole second, with none; a zero offset is `Z` in a manifest and `+00:00` elsewhere.
-/

set_option autoImplicit false

namespace ClaimOperator

namespace Time

structure Offset where
  minutes : Int
  inDay : minutes.natAbs < 1440 := by decide
  deriving DecidableEq, Repr

def Offset.utc : Offset := { minutes := 0 }

end Time

open Time

structure Timestamp where
  date : Date
  time : TimeOfDay
  offset : Option Offset
  deriving DecidableEq, Repr

namespace Timestamp

def epoch : Timestamp := ⟨{ year := 1970, month := 1, day := 1 }, .midnight, some .utc⟩

instance : Inhabited Timestamp := ⟨epoch⟩

inductive ZeroOffset where
  | zulu
  | digits

def dateChars (date : Date) : List Char :=
  Text.padded 4 date.year ++ ['-'] ++ Text.padded 2 date.month ++ ['-'] ++ Text.padded 2 date.day

def timeChars (time : TimeOfDay) : List Char :=
  Text.padded 2 time.hour ++ [':'] ++ Text.padded 2 time.minute ++ [':'] ++ Text.padded 2 time.second ++
    if time.micros = 0 then [] else '.' :: Text.padded 6 time.micros

def offsetChars (zeroOffset : ZeroOffset) : Option Offset → List Char
  | none => []
  | some offset =>
    match zeroOffset, offset.minutes with
    | .zulu, 0 => ['Z']
    | _, minutes =>
      (if minutes < 0 then '-' else '+') ::
        Text.padded 2 (minutes.natAbs / 60) ++ [':'] ++ Text.padded 2 (minutes.natAbs % 60)

def write (zeroOffset : ZeroOffset) (stamp : Timestamp) : String :=
  String.ofList (dateChars stamp.date ++ ['T'] ++ timeChars stamp.time ++ offsetChars zeroOffset stamp.offset)

/-- Microseconds from the start of year 1, by the clock that the timestamp shows. -/
def localMicros (stamp : Timestamp) : Nat :=
  stamp.date.dayNumber * microsPerDay + stamp.time.microsOfDay

def ofLocalMicros? (micros : Int) (offset : Option Offset) : Option Timestamp :=
  if micros < 0 then none
  else
    (Date.ofDayNumber? (micros.toNat / microsPerDay)).map fun date =>
      ⟨date, .ofMicros (micros.toNat % microsPerDay), offset⟩

def epochDay : Nat := 719162

def ofUnixMicros? (micros : Int) : Option Timestamp :=
  ofLocalMicros? (epochDay * microsPerDay + micros) (some .utc)

def add? (stamp : Timestamp) (micros : Int) : Option Timestamp :=
  ofLocalMicros? (stamp.localMicros + micros) stamp.offset

end Timestamp

end ClaimOperator

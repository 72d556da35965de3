import ClaimOperator.Json.Basic
import ClaimOperator.Number.Reading

/-! Reading JSON text.

Each reader takes a value off the front of the text and hands back the rest with
a proof that it is shorter, which is why the recursion ends. The names `NaN`,
`Infinity` and `-Infinity` are numbers. A key that occurs again replaces the
earlier value. Surrogate escapes are joined in pairs; one that stands alone
becomes the replacement character.
-/

set_option autoImplicit false

namespace ClaimOperator.Json

/-- A value off the front of a text of length `bound`, and the rest of that text. -/
structure Taken (α : Type) (bound : Nat) where
  value : α
  rest : List Char
  shorter : rest.length < bound

def Taken.weaken {α : Type} {bound wider : Nat} (taken : Taken α bound) (le : bound ≤ wider) :
    Taken α wider :=
  ⟨taken.value, taken.rest, Nat.lt_of_lt_of_le taken.shorter le⟩

def Taken.map {α β : Type} {bound : Nat} (taken : Taken α bound) (f : α → β) : Taken β bound :=
  ⟨f taken.value, taken.rest, taken.shorter⟩

def isSpacing (c : Char) : Bool := c = ' ' || c = '\t' || c = '\n' || c = '\r'

def skipSpacing (text : List Char) : { rest : List Char // rest.length ≤ text.length } :=
  ⟨text.dropWhile isSpacing, (List.dropWhile_sublist isSpacing).length_le⟩

def skipMark (mark : Char) (text : List Char) : Option { rest : List Char // rest.length < text.length } :=
  match skipSpacing text with
  | ⟨[], _⟩ => none
  | ⟨c :: rest, le⟩ => if c = mark then some ⟨rest, le⟩ else none

def hexValue? (c : Char) : Option Nat :=
  if '0' ≤ c ∧ c ≤ '9' then some (c.toNat - 48)
  else if 'a' ≤ c ∧ c ≤ 'f' then some (c.toNat - 87)
  else if 'A' ≤ c ∧ c ≤ 'F' then some (c.toNat - 55)
  else none

def hexUnit? (a b c d : Char) : Option Nat := do
  let a ← hexValue? a
  let b ← hexValue? b
  let c ← hexValue? c
  let d ← hexValue? d
  return ((a * 16 + b) * 16 + c) * 16 + d

def shortEscape? (c : Char) : Option Nat :=
  match c with
  | '"' => some 0x22
  | '\\' => some 0x5C
  | '/' => some 0x2F
  | 'b' => some 0x08
  | 'f' => some 0x0C
  | 'n' => some 0x0A
  | 'r' => some 0x0D
  | 't' => some 0x09
  | _ => none

def readUnits : (text : List Char) → Option (Taken (List Nat) text.length)
  | [] => none
  | '"' :: rest => some ⟨[], rest, by simp⟩
  | '\\' :: 'u' :: a :: b :: c :: d :: rest => do
    let unit ← hexUnit? a b c d
    let more ← readUnits rest
    return (more.map (unit :: ·)).weaken (by simp only [List.length_cons]; omega)
  | '\\' :: c :: rest => do
    let unit ← shortEscape? c
    let more ← readUnits rest
    return (more.map (unit :: ·)).weaken (by simp only [List.length_cons]; omega)
  | c :: rest => do
    if c.toNat < 0x20 ∨ c = '\\' then none
    else
      let more ← readUnits rest
      return (more.map (c.toNat :: ·)).weaken (by simp)

def joinUnits : List Nat → List Char
  | [] => []
  | [unit] => [if 0xD800 ≤ unit ∧ unit < 0xE000 then '\uFFFD' else Char.ofNat unit]
  | high :: low :: rest =>
    if 0xD800 ≤ high ∧ high < 0xDC00 ∧ 0xDC00 ≤ low ∧ low < 0xE000 then
      Char.ofNat (0x10000 + (high - 0xD800) * 0x400 + (low - 0xDC00)) :: joinUnits rest
    else
      (if 0xD800 ≤ high ∧ high < 0xE000 then '\uFFFD' else Char.ofNat high) :: joinUnits (low :: rest)

def readString (text : List Char) : Option (Taken String text.length) :=
  (readUnits text).map (·.map fun units => String.ofList (joinUnits units))

def readFraction (text : List Char) : List Nat × List Char :=
  match text with
  | '.' :: rest =>
    match Text.leadingDigits rest with
    | ([], _) => ([], text)
    | read => read
  | _ => ([], text)

def readPower (text : List Char) : Option Int × List Char :=
  match text with
  | mark :: rest =>
    if mark = 'e' ∨ mark = 'E' then
      let (negative, digits) := Text.splitSign rest
      match Text.leadingDigits digits with
      | ([], _) => (none, text)
      | (digits, rest) =>
        let magnitude : Int := Text.ofDigits 0 digits
        (some (if negative then -magnitude else magnitude), rest)
    else (none, text)
  | [] => (none, text)

/-- A number without its sign; a whole part of several digits does not begin with zero. -/
def readNumber (negative : Bool) (text : List Char) : Option (Json × List Char) :=
  let (whole, rest) :=
    match text with
    | '0' :: rest => ([0], rest)
    | _ => Text.leadingDigits text
  if whole.isEmpty then none
  else
    let (fraction, rest) := readFraction rest
    let (power, rest) := readPower rest
    if fraction.isEmpty && power.isNone then
      let magnitude : Int := Text.ofDigits 0 whole
      some (.integer (if negative then -magnitude else magnitude), rest)
    else
      let exponent := power.getD 0 - fraction.length
      some (.real (.ofDecimal negative (Text.ofDigits 0 (whole ++ fraction)) exponent), rest)

def namedScalars : List (List Char × Json) :=
  [("null".toList, .null), ("true".toList, .bool true), ("false".toList, .bool false),
    ("NaN".toList, .real .nan), ("Infinity".toList, .real (.infinite false)),
    ("-Infinity".toList, .real (.infinite true))]

def readScalar (text : List Char) : Option (Json × List Char) :=
  match namedScalars.find? fun (name, _) => name.isPrefixOf text with
  | some (name, value) => some (value, text.drop name.length)
  | none =>
    match text with
    | '-' :: rest => readNumber true rest
    | _ => readNumber false text

/-- A scalar is kept only if it took something off the text. -/
def takeScalar (text : List Char) : Option (Taken Json text.length) := do
  let (value, rest) ← readScalar text
  if shorter : rest.length < text.length then some ⟨value, rest, shorter⟩ else none

def readKey (text : List Char) : Option (Taken String text.length) := do
  let ⟨quoted, opened⟩ ← skipMark '"' text
  let key ← readString quoted
  let ⟨rest, parted⟩ ← skipMark ':' key.rest
  some ⟨key.value, rest, Nat.lt_trans (Nat.lt_trans parted key.shorter) opened⟩

mutual

def readValue (text : List Char) : Option (Taken Json text.length) :=
  match skipSpacing text with
  | ⟨[], _⟩ => none
  | ⟨c :: rest, le⟩ =>
    have shorter : rest.length < text.length := le
    if c = '"' then
      (readString rest).map fun taken => (taken.map .string).weaken (by omega)
    else if c = '[' then
      match skipMark ']' rest with
      | some ⟨rest, closed⟩ => some ⟨.array [], rest, Nat.lt_trans closed shorter⟩
      | none => (readItems rest).map fun taken => (taken.map .array).weaken (by omega)
    else if c = '\x7b' then
      match skipMark '\x7d' rest with
      | some ⟨rest, closed⟩ => some ⟨.object [], rest, Nat.lt_trans closed shorter⟩
      | none => (readFields [] rest).map fun taken => (taken.map .object).weaken (by omega)
    else (takeScalar (c :: rest)).map fun taken => taken.weaken le
termination_by (text.length, 0)

def readItems (text : List Char) : Option (Taken (List Json) text.length) := do
  let item ← readValue text
  match skipSpacing item.rest with
  | ⟨[], _⟩ => none
  | ⟨c :: rest, le⟩ =>
    have shorter : rest.length < text.length := Nat.lt_trans le item.shorter
    if c = ',' then
      let more ← readItems rest
      some ((more.map (item.value :: ·)).weaken (by omega))
    else if c = ']' then some ⟨[item.value], rest, shorter⟩
    else none
termination_by (text.length, 1)

def readFields (before : Fields) (text : List Char) : Option (Taken Fields text.length) := do
  let key ← readKey text
  have keyShorter := key.shorter
  let value ← readValue key.rest
  let fields := before.put key.value value.value
  match skipSpacing value.rest with
  | ⟨[], _⟩ => none
  | ⟨c :: rest, le⟩ =>
    have shorter : rest.length < text.length :=
      Nat.lt_trans (Nat.lt_trans le value.shorter) keyShorter
    if c = ',' then
      let more ← readFields fields rest
      some (more.weaken (by omega))
    else if c = '\x7d' then some ⟨fields, rest, shorter⟩
    else none
termination_by (text.length, 0)

end

def read? (text : String) : Option Json := do
  let taken ← readValue text.toList
  if (skipSpacing taken.rest).val.isEmpty then some taken.value else none

end ClaimOperator.Json

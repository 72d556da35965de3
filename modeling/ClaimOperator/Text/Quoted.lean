import ClaimOperator.Text.Printable

/-! Quoted text, as messages show a value that was not accepted.

Single quotes enclose the text unless it holds one and no double quote. The
enclosing quote and the backslash are escaped, and so is every character that
is not printable, in the shortest of the three hexadecimal forms.
-/

set_option autoImplicit false

namespace ClaimOperator.Text

def hexDigit (value : Nat) : Char :=
  if value % 16 < 10 then Char.ofNat (48 + value % 16) else Char.ofNat (87 + value % 16)

def hexPadded : Nat → Nat → List Char
  | 0, _ => []
  | width + 1, value => hexPadded width (value / 16) ++ [hexDigit value]

def quoteMark (text : List Char) : Char :=
  if text.contains '\x27' && !text.contains '"' then '"' else '\x27'

def escapeChar (mark : Char) (c : Char) : List Char :=
  if c = mark ∨ c = '\\' then ['\\', c]
  else if c = '\n' then ['\\', 'n']
  else if c = '\r' then ['\\', 'r']
  else if c = '\t' then ['\\', 't']
  else if isPrintable c then [c]
  else if c.toNat < 0x100 then ['\\', 'x'] ++ hexPadded 2 c.toNat
  else if c.toNat < 0x10000 then ['\\', 'u'] ++ hexPadded 4 c.toNat
  else ['\\', 'U'] ++ hexPadded 8 c.toNat

def quoteChars (text : List Char) : List Char :=
  let mark := quoteMark text
  mark :: text.flatMap (escapeChar mark) ++ [mark]

def quote (text : String) : String := String.ofList (quoteChars text.toList)

end ClaimOperator.Text

/-! Blank characters and the trimming of text.

A character is blank when Unicode counts it as white space, or when it is one of
the four ASCII separators. The classes of `Char` know ASCII only, so the ranges
are listed here.
-/

set_option autoImplicit false

namespace ClaimOperator.Text

def blankRanges : List (Nat × Nat) :=
  [(0x09, 0x0D), (0x1C, 0x20), (0x85, 0x85), (0xA0, 0xA0), (0x1680, 0x1680), (0x2000, 0x200A),
    (0x2028, 0x2029), (0x202F, 0x202F), (0x205F, 0x205F), (0x3000, 0x3000)]

def isBlank (c : Char) : Bool :=
  blankRanges.any fun (low, high) => low ≤ c.toNat && c.toNat ≤ high

def trimStart (text : List Char) : List Char := text.dropWhile isBlank

def trimEnd (text : List Char) : List Char := (text.reverse.dropWhile isBlank).reverse

def trim (text : String) : String := String.ofList (trimEnd (trimStart text.toList))

/-- Text that says nothing: empty, or blank throughout. -/
def isBlankText (text : String) : Bool := text.toList.all isBlank

end ClaimOperator.Text

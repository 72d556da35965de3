/-! Cutting text at a mark: at the first occurrence, at every one, or off the end. -/

set_option autoImplicit false

namespace ClaimOperator.Text

def splitAtFirst (mark : Char) : List Char → List Char × Option (List Char)
  | [] => ([], none)
  | c :: rest =>
    if c = mark then ([], some rest)
    else
      let (before, after) := splitAtFirst mark rest
      (c :: before, after)

/-- The pieces between the marks; a text without a mark is one piece. -/
def splitAtEach (mark : Char) : List Char → List (List Char)
  | [] => [[]]
  | c :: rest =>
    if c = mark then [] :: splitAtEach mark rest
    else
      match splitAtEach mark rest with
      | [] => [[c]]
      | piece :: others => (c :: piece) :: others

def joinWith (mark : Char) (pieces : List (List Char)) : List Char := [mark].intercalate pieces

def withoutFinal (mark : Char) (text : String) : String :=
  String.ofList (text.toList.reverse.dropWhile (· = mark)).reverse

end ClaimOperator.Text

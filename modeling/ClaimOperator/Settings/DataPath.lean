import ClaimOperator.Text.Split

/-! File paths in normal form: a root and the parts below it.

Empty parts and single dots are dropped; two dots stay, because what they lead to
depends on links. A path that begins with exactly two slashes keeps both.
-/

set_option autoImplicit false

namespace ClaimOperator

structure DataPath where
  root : String := ""
  parts : List String := []
  deriving DecidableEq, Repr

namespace DataPath

def rootOf (text : List Char) : String :=
  match (text.takeWhile (· = '/')).length with
  | 0 => ""
  | 2 => "//"
  | _ => "/"

def isPart (part : String) : Bool := part ≠ "" && part ≠ "."

def ofText (text : String) : DataPath where
  root := rootOf text.toList
  parts := ((Text.splitAtEach '/' text.toList).map String.ofList).filter isPart

/-- A path below another one, unless it has a root of its own. -/
def append (base path : DataPath) : DataPath :=
  if path.root = "" then ⟨base.root, base.parts ++ path.parts⟩ else path

def text (path : DataPath) : String :=
  if path.root = "" && path.parts.isEmpty then "."
  else path.root ++ String.intercalate "/" path.parts

def withoutDots (resolved : List String) : List String → List String
  | [] => resolved
  | part :: rest => withoutDots (if part = ".." then resolved.dropLast else resolved ++ [part]) rest

end DataPath

end ClaimOperator

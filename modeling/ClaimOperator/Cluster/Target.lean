import ClaimOperator.Text.Split

/-! Request targets: the path and query under which a resource is addressed.

A path is handed over as plain text. What follows a number sign is dropped, and
the first question mark begins the query. Characters that may not stand in a
target are written as their UTF-8 bytes in hexadecimal; a percent sign is left
alone, so escapes that are there already survive. Dot segments are resolved.
-/

set_option autoImplicit false

namespace ClaimOperator.Cluster.Target

def lengthLimit : Nat := 65536

def isControl (c : Char) : Bool := c.toNat < 0x20 || c.toNat = 0x7F

def isGraphic (c : Char) : Bool := 0x20 < c.toNat && c.toNat < 0x7F

def isQuerySafe (c : Char) : Bool := isGraphic c && !"\"#<>".toList.contains c

def isPathSafe (c : Char) : Bool := isQuerySafe c && !"?\x60\x7b\x7d".toList.contains c

def upperHexDigit (value : Nat) : Char := if value < 10 then Char.ofNat (48 + value) else Char.ofNat (55 + value)

def percentByte (byte : UInt8) : List Char :=
  ['%', upperHexDigit (byte.toNat / 16), upperHexDigit (byte.toNat % 16)]

def percentEncode (safe : Char → Bool) (text : List Char) : List Char :=
  text.flatMap fun c => if safe c then [c] else (String.utf8EncodeChar c).flatMap percentByte

/-- Drop dot segments. Two dots take the segment before them along, except the empty first one. -/
def resolveDots (resolved : List (List Char)) : List (List Char) → List (List Char)
  | [] => resolved
  | segment :: rest =>
    if segment = ['.'] then resolveDots resolved rest
    else if segment = ['.', '.'] then
      resolveDots (if resolved = [[]] then resolved else resolved.dropLast) rest
    else resolveDots (resolved ++ [segment]) rest

def resolvePath (path : List Char) : List Char :=
  Text.joinWith '/' (resolveDots [] (Text.splitAtEach '/' path))

def rooted (path : List Char) : List Char := if path.isEmpty then ['/'] else path

def encode? (path : List Char) (query : Option (List Char)) : Option (List Char × Option (List Char)) :=
  let path := percentEncode isPathSafe path
  let query := query.map (percentEncode isQuerySafe)
  if lengthLimit < path.length || lengthLimit < (query.getD []).length then none else some (path, query)

def withQuery (path : List Char) (query : Option (List Char)) : List Char :=
  match query with
  | some query => path ++ '?' :: query
  | none => path

def isAcceptable (text : List Char) : Bool := !text.any isControl && text.length ≤ lengthLimit

/-- The target for a path, unless the path holds control characters or is too long. -/
def ofPath? (path : String) : Option String :=
  let text := path.toList
  if !isAcceptable text then none
  else
    let (path, query) := Text.splitAtFirst '?' (Text.splitAtFirst '#' text).1
    match encode? path query with
    | some (path, query) => some (String.ofList (withQuery (rooted (resolvePath path)) query))
    | none => none

end ClaimOperator.Cluster.Target

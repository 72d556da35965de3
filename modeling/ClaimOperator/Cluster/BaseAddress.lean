import ClaimOperator.Cluster.Target
import ClaimOperator.Text.Numeral

/-! The address of an API server, in normal form.

Scheme and host are written in small letters, and a port that the scheme implies
is left out. A path ends with a slash, so that resources can be named below it.
-/

set_option autoImplicit false

namespace ClaimOperator.Cluster

structure BaseAddress where
  scheme : List Char
  user : Option (List Char)
  host : List Char
  port : Option Int
  path : List Char
  query : Option (List Char)
  fragment : Option (List Char)
  deriving DecidableEq, Repr

namespace BaseAddress

def impliedPorts : List (String × Int) := [("ftp", 21), ("http", 80), ("https", 443), ("ws", 80), ("wss", 443)]

def isSchemeName : List Char → Bool
  | [] => true
  | first :: rest =>
    first.isAlpha && rest.all fun c => c.isAlphanum || c = '+' || c = '.' || c = '-'

def splitScheme (text : List Char) : List Char × List Char :=
  match Text.splitAtFirst ':' text with
  | (name, some rest) => if isSchemeName name then (name.map Char.toLower, rest) else ([], text)
  | (_, none) => ([], text)

def endsAuthority (c : Char) : Bool := c = '/' || c = '?' || c = '#'

def splitAuthority : List Char → List Char × List Char
  | '/' :: '/' :: rest => (rest.takeWhile fun c => !endsAuthority c, rest.dropWhile fun c => !endsAuthority c)
  | text => ([], text)

def splitUser (authority : List Char) : Option (List Char) × List Char :=
  match Text.splitAtFirst '@' authority.reverse with
  | (host, some user) => (some user.reverse, host.reverse)
  | (_, none) => (none, authority)

/-- A host in brackets may hold colons. -/
def splitPort (text : List Char) : List Char × List Char :=
  let (host, rest) :=
    match text, Text.splitAtFirst ']' text.reverse with
    | '[' :: _, (after, some before) => ((']' :: before).reverse, after.reverse)
    | _, _ => (text.takeWhile (· ≠ ':'), text.dropWhile (· ≠ ':'))
  match rest with
  | ':' :: port => (host, port)
  | port => (host, port)

/-- Nothing if the port is no number; no port if the scheme implies it. -/
def readPort? (scheme port : List Char) : Option (Option Int) :=
  if port.isEmpty then some none
  else
    (Text.readInteger? (String.ofList port)).map fun number =>
      if impliedPorts.lookup (String.ofList scheme) = some number then none else some number

/-- Four groups of digits are an address, and each must be below 256 without a leading zero. -/
def isHost (host : List Char) : Bool :=
  let groups := Text.splitAtEach '.' host
  if groups.length = 4 && groups.all (fun group => !group.isEmpty && group.all Char.isDigit) then
    groups.all fun group =>
      group.length ≤ 3 && Text.ofDigits 0 (Text.leadingDigits group).1 < 256 &&
        (group.length = 1 || group.head? ≠ some '0')
  else true

def isHostSafe (c : Char) : Bool :=
  c.isAlphanum || "-._~!$&\x27()*+,;=\"\x60\x7b\x7d%|\\[]:".toList.contains c

def writeHost (host : List Char) : List Char := Target.percentEncode isHostSafe (host.map Char.toLower)

/-- A path that could be taken for an authority or a scheme needs one before it. -/
def isPath (scheme : List Char) (hasAuthority : Bool) (path : List Char) : Bool :=
  if hasAuthority then true
  else !(['/', '/'].isPrefixOf path) && !(scheme.isEmpty && [':'].isPrefixOf path)

def closeWithSlash (path : List Char) (query : Option (List Char)) : List Char × Option (List Char) :=
  let whole := Target.withQuery (Target.rooted path) query
  if whole.getLast? = some '/' then (path, query) else Text.splitAtFirst '?' (whole ++ ['/'])

def ofText? (text : String) : Option BaseAddress := do
  let text := text.toList
  guard (Target.isAcceptable text)
  let (scheme, rest) := splitScheme text
  let (authority, rest) := splitAuthority rest
  let (rest, fragment) := Text.splitAtFirst '#' rest
  let (path, query) := Text.splitAtFirst '?' rest
  let (user, hostAndPort) := splitUser authority
  let (host, port) := splitPort hostAndPort
  guard (isHost host)
  let port ← readPort? scheme port
  let hasAuthority := user.isSome || !host.isEmpty || port.isSome
  guard (isPath scheme hasAuthority path)
  let (path, query) ← Target.encode? path query
  let path := if scheme.isEmpty && !hasAuthority then path else Target.resolvePath path
  let (path, query) := closeWithSlash path query
  return {
    scheme := scheme
    user := user.map (Target.percentEncode Target.isPathSafe)
    host := writeHost host
    port := port
    path := path
    query := query
    fragment := fragment }

def authority (address : BaseAddress) : List Char :=
  (address.user.map (· ++ ['@'])).getD [] ++ address.host ++
    (address.port.map fun port => ':' :: (Text.decimalInt port).toList).getD []

def text (address : BaseAddress) : String :=
  String.ofList <|
    (if address.scheme.isEmpty then [] else address.scheme ++ [':']) ++
    (if address.authority.isEmpty then [] else ['/', '/'] ++ address.authority) ++
    Target.withQuery address.path address.query ++
    (address.fragment.map ('#' :: ·)).getD []

end BaseAddress

end ClaimOperator.Cluster

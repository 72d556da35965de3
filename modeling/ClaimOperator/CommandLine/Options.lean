import ClaimOperator.Text.Digit
import ClaimOperator.Text.Numeral
import ClaimOperator.Text.Split

/-! Reading options off a list of arguments.

A long option may be cut short as long as it stays unambiguous, and takes its
value after an equals sign or from the next argument. Short flags may be joined.
An argument that begins with a dash is still a word when it is a lone dash, a
negative number, or holds a space. A double dash on its own is never accepted.

Arguments are taken from left to right, and a request for help ends the reading.
Before that, an argument that fits nowhere is passed over, an ambiguous one is
refused wherever it stands, and any other fault is refused where it is met.
-/

set_option autoImplicit false

namespace ClaimOperator.CommandLine

inductive Operand where
  | nothing
  | text
  | integer
  | choice (words : List String)
  deriving DecidableEq, Repr

def Operand.accepts : Operand → String → Bool
  | nothing, _ => false
  | text, _ => true
  | integer, given => (Text.readInteger? given).isSome
  | choice words, given => words.contains given

/-- One spelling of an option. Spellings with the same name mean the same option. -/
structure Spelling where
  text : String
  name : String
  operand : Operand
  deriving DecidableEq, Repr

def Spelling.isFlag (spelling : Spelling) : Bool := spelling.operand = .nothing

abbrev Grammar := List Spelling

/-- What an argument is by itself. Joined flags may end in letters that are no flags. -/
inductive Token where
  | word (text : String)
  | flags (names : List String) (fits : Bool)
  | valued (spelling : Spelling) (attached : Option String)
  | stranger
  | ambiguous
  | refused
  deriving DecidableEq, Repr

def isNumeralChar (c : Char) : Bool := (Text.digitValue? c).isSome

/-- Whole and fractional digits after a minus; a final line break is overlooked. -/
def isNegativeNumber (text : List Char) : Bool :=
  match text with
  | '-' :: rest =>
    let rest := if rest.getLast? = some '\n' then rest.dropLast else rest
    match Text.splitAtFirst '.' rest with
    | (whole, none) => !whole.isEmpty && whole.all isNumeralChar
    | (whole, some fraction) =>
      whole.all isNumeralChar && !fraction.isEmpty && fraction.all isNumeralChar
  | _ => false

namespace Grammar

def find? (grammar : Grammar) (text : String) : Option Spelling :=
  List.find? (fun spelling => spelling.text = text) grammar

/-- A flag takes no value, not even an empty one. -/
def token (spelling : Spelling) (attached : Option String) : Token :=
  if spelling.isFlag then if attached.isSome then .refused else .flags [spelling.name] true
  else .valued spelling attached

/-- The flags that are joined behind one dash. A dash or an equals sign cannot follow them. -/
def joinedFlags (grammar : Grammar) (names : List String) : List Char → Token
  | [] => .flags names true
  | c :: rest =>
    if c = '-' || c = '=' then .refused
    else
      match grammar.find? (String.ofList ['-', c]) with
      | some spelling => grammar.joinedFlags (names ++ [spelling.name]) rest
      | none => .flags names false

def leftover (text : List Char) : Token :=
  if isNegativeNumber text || text.contains ' ' then .word (String.ofList text) else .stranger

def classifyLong (grammar : Grammar) (text : List Char) : Token :=
  let (start, attached) := Text.splitAtFirst '=' text
  match grammar.filter fun spelling => start.isPrefixOf spelling.text.toList with
  | [] => leftover text
  | [spelling] => token spelling (attached.map String.ofList)
  | _ => .ambiguous

def classifyShort (grammar : Grammar) (text : List Char) : Token :=
  match text with
  | '-' :: letter :: rest =>
    match grammar.find? (String.ofList ['-', letter]) with
    | none => leftover text
    | some spelling =>
      if spelling.isFlag then grammar.joinedFlags [spelling.name] rest
      else .valued spelling (some (String.ofList rest))
  | _ => .word (String.ofList text)

def classifyDashed (grammar : Grammar) (text : List Char) : Token :=
  let (start, attached) := Text.splitAtFirst '=' text
  match grammar.find? (String.ofList start) with
  | some spelling => token spelling (attached.map String.ofList)
  | none => if ['-', '-'].isPrefixOf text then grammar.classifyLong text else grammar.classifyShort text

def classify (grammar : Grammar) (argument : String) : Token :=
  match argument.toList with
  | ['-', '-'] => .refused
  | '-' :: letter :: rest => grammar.classifyDashed ('-' :: letter :: rest)
  | _ => .word argument

-- The arguments of the levels below are looked at too: nobody knows yet where they belong.
def hasAmbiguous (grammar : Grammar) (arguments : List String) : Bool :=
  (arguments.takeWhile (· ≠ "--")).any fun argument => grammar.classify argument = .ambiguous

end Grammar

/-- The options read so far, latest first, and the word that ended them with all that follows. -/
structure Level where
  flags : List String := []
  values : List (String × String) := []
  command : Option (String × List String) := none
  hasStrangers : Bool := false
  deriving DecidableEq, Repr

inductive Ending where
  | help
  | refused
  | complete (level : Level)
  deriving DecidableEq, Repr

namespace Level

def value? (level : Level) (name : String) : Option String := level.values.lookup name

def addFlags (level : Level) (names : List String) (fits : Bool) : Level :=
  { level with flags := names ++ level.flags, hasStrangers := level.hasStrangers || !fits }

def addValue (level : Level) (name value : String) : Level :=
  { level with values := (name, value) :: level.values }

def addStranger (level : Level) : Level := { level with hasStrangers := true }

/-- Take the arguments in order. Only a level that takes a command has a place for a word. -/
def take (grammar : Grammar) (takesCommand : Bool) (level : Level) : List String → Ending
  | [] => .complete level
  | argument :: rest =>
    match grammar.classify argument with
    | .refused | .ambiguous => .refused
    | .stranger => level.addStranger.take grammar takesCommand rest
    | .word text =>
      if takesCommand then .complete { level with command := some (text, rest) }
      else level.addStranger.take grammar takesCommand rest
    | .flags names fits =>
      if names.contains "help" then .help
      else (level.addFlags names fits).take grammar takesCommand rest
    | .valued spelling (some value) =>
      if spelling.operand.accepts value then
        (level.addValue spelling.name value).take grammar takesCommand rest
      else .refused
    | .valued spelling none =>
      match rest with
      | [] => .refused
      | next :: rest =>
        match grammar.classify next with
        | .word value =>
          if spelling.operand.accepts value then
            (level.addValue spelling.name value).take grammar takesCommand rest
          else .refused
        | _ => .refused

def read (grammar : Grammar) (takesCommand : Bool) (level : Level) (arguments : List String) : Ending :=
  if grammar.hasAmbiguous arguments then .refused
  else take grammar takesCommand { level with command := none } arguments

end Level

end ClaimOperator.CommandLine

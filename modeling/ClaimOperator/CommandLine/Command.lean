import ClaimOperator.CommandLine.Options
import ClaimOperator.Settings.BackendChoice
import ClaimOperator.Text.Numeral
import ClaimOperator.Workflow

/-! Commands: what the operator is told to do on the command line. -/

set_option autoImplicit false

namespace ClaimOperator.CommandLine

inductive Command where
  | reconcile (passLimit : Int)
  | create (entity : LegalEntity) (region : String)
  | delete
  | print
  deriving DecidableEq, Repr

structure Invocation where
  backend : Option String
  verbose : Bool
  space : String
  name : String
  command : Command
  deriving DecidableEq, Repr

inductive Request where
  | help
  | invoke (invocation : Invocation)
  deriving DecidableEq, Repr

namespace Grammars

def flag (text name : String) : Spelling := ⟨text, name, .nothing⟩

def valued (name : String) (operand : Operand := .text) : Spelling := ⟨"--" ++ name, name, operand⟩

def help : Grammar := [flag "-h" "help", flag "--help" "help"]

def key : Grammar := help ++ [valued "namespace", valued "name"]

def main : Grammar :=
  help ++ [valued "backend" (.choice Backend.names), flag "--verbose" "verbose", flag "-v" "verbose"]

def reconcile : Grammar := key ++ [valued "max-passes" .integer]

def create : Grammar := key ++ [valued "legal-entity-name", valued "legal-entity-id", valued "region"]

end Grammars

def Ending.request? (ending : Ending) (finish : Level → Option Request) : Option Request :=
  match ending with
  | .help => some .help
  | .refused => none
  | .complete level => finish level

def passLimit? (level : Level) : Option Int :=
  match level.value? "max-passes" with
  | none => some Workflow.defaultPassLimit
  | some text => Text.readInteger? text

def reconcileCommand? (level : Level) : Option Command := (passLimit? level).map .reconcile

def createCommand? (level : Level) : Option Command := do
  let name ← level.value? "legal-entity-name"
  let id ← level.value? "legal-entity-id"
  return .create ⟨name, id⟩ ((level.value? "region").getD "")

def invocation? (command? : Level → Option Command) (level : Level) : Option Request := do
  guard !level.hasStrangers
  let space ← level.value? "namespace"
  let name ← level.value? "name"
  let command ← command? level
  return .invoke ⟨level.value? "backend", level.flags.contains "verbose", space, name, command⟩

def readLeaf (grammar : Grammar) (command? : Level → Option Command) (level : Level)
    (arguments : List String) : Option Request :=
  (level.read grammar false arguments).request? (invocation? command?)

def readClaimCommand (level : Level) : Option Request := do
  match ← level.command with
  | ("create", rest) => readLeaf Grammars.create createCommand? level rest
  | ("delete", rest) => readLeaf Grammars.key (fun _ => some .delete) level rest
  | ("show", rest) => readLeaf Grammars.key (fun _ => some .print) level rest
  | _ => none

def readCommand (level : Level) : Option Request := do
  match ← level.command with
  | ("reconcile", rest) => readLeaf Grammars.reconcile reconcileCommand? level rest
  | ("claim", rest) => (level.read Grammars.help true rest).request? readClaimCommand
  | _ => none

def read (arguments : List String) : Option Request :=
  (Level.read Grammars.main true {} arguments).request? readCommand

namespace Invocation

/-- The claim's key without blanks around its parts, neither of which may be blank. -/
def key? (invocation : Invocation) : Option ObjectKey :=
  let space := Text.trim invocation.space
  let name := Text.trim invocation.name
  if space = "" ∨ name = "" then none else some ⟨space, name⟩

def valid? (invocation : Invocation) : Option ObjectKey := do
  let key ← invocation.key?
  match invocation.command with
  | .reconcile passLimit => if passLimit < 1 then none else some key
  | _ => some key

end Invocation

end ClaimOperator.CommandLine

import ClaimOperator.Cluster.ApiStore
import ClaimOperator.CommandLine.Command
import ClaimOperator.Settings.ApiAccess
import ClaimOperator.Settings.LogThresholds

/-! Running the operator from the command line.

A run ends with an exit status: 2 when the arguments are not acceptable, 1 when
the work failed, 0 otherwise. What it has to say goes to the log; only a claim that is
shown is printed.
-/

set_option autoImplicit false

namespace ClaimOperator.CommandLine

structure Outcome where
  status : Nat
  printed : String := ""
  log : List Log.Entry := []

def channelName : Log.Channel → String
  | .application => "projclaim.app"
  | .reconcile => "projclaim.domain.reconciliation.reconcile"
  | .tables => "projclaim.adapters.sqlalchemy.mappings"
  | .commandLine => "projclaim.ui.cli"

def levelName : Log.Level → String
  | .debug => "DEBUG"
  | .info => "INFO"
  | .warning => "WARNING"
  | .error => "ERROR"

def threshold (verbose : Bool) : Int := if verbose then 10 else 20

def audible (verbose : Bool) (log : List Log.Entry) : List Log.Entry :=
  log.filter fun entry => threshold verbose ≤ entry.level.number

def remark (level : Log.Level) (message : String) : Log.Entry := ⟨level, .commandLine, message⟩

section Work

variable {σ : Type} [Transactional σ]

def settledRemark (key : ObjectKey) : Option PassResult → Option Log.Entry
  | none => some (remark .info ("ProjectClaim " ++ key.text ++ " does not exist"))
  | some result =>
    if result.requeue then
      some <| remark .warning <|
        "ProjectClaim " ++ key.text ++ " has not settled yet (last step " ++ Step.shown result.step ++ ")"
    else none

def perform (serve : Service σ) (now : Timestamp) (referenceSpace : String) (key : ObjectKey)
    (command : Command) (session : Session σ) : Except Failure String × Session σ :=
  match command with
  | .reconcile passLimit =>
    let (outcome, session) := Workflow.settle serve now referenceSpace key passLimit session
    match outcome with
    | .ok result => (.ok "", { session with log := session.log ++ (settledRemark key result).toList })
    | .error failure => (.error failure, session)
  | .create entity region =>
    let (outcome, session) := session.transact serve now (Workflow.create key entity region)
    (outcome.map fun _ => "", session)
  | .delete =>
    let (outcome, session) := session.transact serve now (Workflow.requestDeletion key)
    (outcome.map fun _ => "", session)
  | .print =>
    let (outcome, session) := session.transact serve now (Workflow.find key)
    (outcome.map fun claim => (Manifest.encode claim).indented ++ "\n", session)

end Work

structure Stores (σ : Type) where
  rows : Rows := []
  started : Bool := false
  server : σ

structure Surroundings (σ : Type) where
  env : Environment
  now : Timestamp
  server : Cluster.Server σ
  fileExists : String → Bool

section Run

variable {σ : Type}

def performLocally (surroundings : Surroundings σ) (referenceSpace : String) (key : ObjectKey)
    (command : Command) (stores : Stores σ) : Except Failure String × List Log.Entry × Stores σ :=
  let starting : List Log.Entry := if stores.started then [] else [⟨.info, .tables, "Creating all tables"⟩]
  let connection : Rows.Connection := { rows := stores.rows }
  let (outcome, session) :=
    perform Rows.Connection.serve surroundings.now referenceSpace key command ⟨connection, starting, 0⟩
  (outcome, session.log, { stores with rows := session.store.rows, started := true })

def performRemotely (surroundings : Surroundings σ) (referenceSpace : String) (key : ObjectKey)
    (command : Command) (stores : Stores σ) : Except Failure String × List Log.Entry × Stores σ :=
  let client : Cluster.Client σ := ⟨stores.server, []⟩
  let (outcome, session) :=
    perform (Cluster.Client.serve surroundings.server) surroundings.now referenceSpace key command
      ⟨client, [], 0⟩
  (outcome, session.log, { stores with server := session.store.server })

def fatal : Log.Entry := remark .error "Fatal error"

def conclude (verbose : Bool) (result : Except Failure String) (log : List Log.Entry) : Outcome :=
  match result with
  | .ok printed => { status := 0, printed := printed, log := audible verbose log }
  | .error _ => { status := 1, log := audible verbose (log ++ [fatal]) }

def canConnect (surroundings : Surroundings σ) : Bool :=
  match ClusterSettings.load surroundings.env {} with
  | .ok config =>
    match ClientProfile.of config surroundings.fileExists with
    | .ok _ => true
    | .error _ => false
  | .error _ => false

def carryOut (surroundings : Surroundings σ) (invocation : Invocation) (key : ObjectKey)
    (stores : Stores σ) : Outcome × Stores σ :=
  match OperatorSettings.load surroundings.env invocation.backend with
  | .error _ => ({ status := 1, log := [fatal] }, stores)
  | .ok config =>
    match config.backend with
    | .sqlite =>
      let (result, log, stores) :=
        performLocally surroundings config.referenceSpace key invocation.command stores
      (conclude invocation.verbose result log, stores)
    | .kubernetes =>
      if canConnect surroundings then
        let (result, log, stores) :=
          performRemotely surroundings config.referenceSpace key invocation.command stores
        (conclude invocation.verbose result log, stores)
      else ({ status := 1, log := [fatal] }, stores)

def run (surroundings : Surroundings σ) (arguments : List String) (stores : Stores σ) : Outcome × Stores σ :=
  match read arguments with
  | none => ({ status := 2 }, stores)
  | some .help => ({ status := 0 }, stores)
  | some (.invoke invocation) =>
    match invocation.valid? with
    | none => ({ status := 2, log := [remark .error "CLI validation error"] }, stores)
    | some key => carryOut surroundings invocation key stores

end Run

def interrupted : Outcome where
  status := 0
  log := [remark .info "Closed by user (Ctrl+C)"]

end ClaimOperator.CommandLine

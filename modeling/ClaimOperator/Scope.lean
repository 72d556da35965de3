import ClaimOperator.Cluster.ApiStore
import ClaimOperator.Cluster.Script
import ClaimOperator.Store.Rows

/-! Scopes: units of work that are entered and left by separate calls.

At most one engine is in use at a time, and a database scope stays with the
engine that was in use when the scope was made. All scopes on an engine share
its one connection, so they see each other's writes before a commit, and a commit
or rollback settles all of them. A disposed engine forgets its tables, and a
transaction that was open on it can no longer be used. A cluster scope only opens
and closes a client.
-/

set_option autoImplicit false

namespace ClaimOperator

/-- An engine with the rows on its connection. The generation counts how often it was disposed. -/
structure Engine where
  name : Option String := none
  generation : Nat := 0
  hasTables : Bool := false
  committed : Rows := []
  current : Rows := []

namespace Engine

/-- Creating tables that are there already changes nothing but ends the open transaction. -/
def createTables (engine : Engine) : Engine := { engine with hasTables := true, committed := engine.current }

def dispose (engine : Engine) : Engine where
  name := engine.name
  generation := engine.generation + 1

def commit (engine : Engine) : Engine := { engine with committed := engine.current }

def rollback (engine : Engine) : Engine := { engine with current := engine.committed }

end Engine

inductive ScopeError where
  | alreadyStarted
  | notStarted
  | sessionMissing
  | sessionOpen
  | notEntered
  | tablesMissing
  | connectionClosed
  | failed (failure : Failure)
  deriving DecidableEq, Repr

def ScopeError.message : ScopeError → String
  | alreadyStarted => "SQLAlchemy adapter already initialised. Pass force=True to reconfigure."
  | notStarted =>
    "SQLAlchemy adapter not initialised. Call projclaim.adapters.sqlalchemy." ++
      "unit_of_work.startup() before requesting a unit of work."
  | sessionMissing => "Unit of work session not initialised"
  | sessionOpen => "Unit of work session already initialised"
  | notEntered => "Unit of work not entered"
  | tablesMissing | connectionClosed | failed _ => ""

/-- The engines by number, the one in use, and for each client made so far whether it is closed. -/
structure Registry where
  engines : List Engine := []
  inUse : Option Nat := none
  closedClients : List Bool := []

namespace Registry

def isRunning (registry : Registry) : Bool := registry.inUse.isSome

def engine (registry : Registry) (number : Nat) : Engine := registry.engines.getD number {}

def engineInUse? (registry : Registry) : Option Engine := registry.inUse.map registry.engine

def changeEngine (registry : Registry) (number : Nat) (change : Engine → Engine) : Registry :=
  { registry with engines := registry.engines.modify number change }

/-- The number of the engine with this name; one without a name is always new. -/
def withEngine (registry : Registry) (name : Option String) : Nat × Registry :=
  match name.bind fun name => registry.engines.findIdx? fun engine => engine.name = some name with
  | some number => (number, registry)
  | none => (registry.engines.length, { registry with engines := registry.engines ++ [{ name := name }] })

def start (registry : Registry) (name : Option String) (force : Bool) : Except ScopeError Registry :=
  if registry.isRunning && !force then .error .alreadyStarted
  else
    let (number, registry) := registry.withEngine name
    .ok { registry.changeEngine number Engine.createTables with inUse := some number }

def stop (registry : Registry) : Registry :=
  match registry.inUse with
  | some number => { registry.changeEngine number Engine.dispose with inUse := none }
  | none => registry

/-- The local backend starts an engine unless there is one already. -/
def startLocal (registry : Registry) : Registry :=
  match registry.start none false with
  | .ok registry => registry
  | .error _ => registry

end Registry

/-- An open session, and the generation of the engine on which its transaction began, if it has begun. -/
structure OpenSession where
  transaction : Option Nat := none

inductive Scope where
  | database (engine : Nat) (session : Option OpenSession)
  | cluster (client : Option (Nat × Cluster.Client Cluster.Script))

namespace Scope

def newDatabase (registry : Registry) : Except ScopeError Scope :=
  match registry.inUse with
  | some number => .ok (database number none)
  | none => .error .notStarted

def newCluster : Scope := cluster none

/-- Entering a cluster scope again makes another client and leaves the first one open. -/
def enter (registry : Registry) : Scope → Except ScopeError (Scope × Registry)
  | database number none => .ok (database number (some {}), registry)
  | database _ (some _) => .error .sessionOpen
  | cluster _ =>
    let opened := { registry with closedClients := registry.closedClients ++ [false] }
    .ok (cluster (some (registry.closedClients.length, ⟨{}, []⟩)), opened)

def endTransaction (registry : Registry) (number : Nat) (session : OpenSession) (finish : Engine → Engine) :
    Except ScopeError Registry :=
  match session.transaction with
  | none => .ok registry
  | some generation =>
    if generation = (registry.engine number).generation then .ok (registry.changeEngine number finish)
    else .error .connectionClosed

/-- Commit or roll back, which ends the transaction and keeps the session. -/
def finish (registry : Registry) (change : Engine → Engine) : Scope → Except ScopeError (Scope × Registry)
  | database _ none => .error .sessionMissing
  | database number (some session) =>
    (endTransaction registry number session change).map (database number (some {}), ·)
  | cluster client => .ok (cluster client, registry)

def commit (registry : Registry) (scope : Scope) : Except ScopeError (Scope × Registry) :=
  scope.finish registry Engine.commit

def rollback (registry : Registry) (scope : Scope) : Except ScopeError (Scope × Registry) :=
  scope.finish registry Engine.rollback

/-- Leaving a scope drops what was not committed. -/
def exit (registry : Registry) : Scope → Except ScopeError (Scope × Registry)
  | database _ none => .error .sessionMissing
  | database number (some session) =>
    (endTransaction registry number session Engine.rollback).map (database number none, ·)
  | cluster none => .ok (cluster none, registry)
  | cluster (some (client, _)) =>
    .ok (cluster none, { registry with closedClients := registry.closedClients.set client true })

def checkOpen : Scope → Except ScopeError Unit
  | database _ none => .error .sessionMissing
  | cluster none => .error .notEntered
  | _ => .ok ()

def askDatabase (registry : Registry) (number : Nat) (session : OpenSession) (request : StoreRequest)
    (now : Timestamp) : Except ScopeError request.Answer × Scope × Registry :=
  -- The first request begins the transaction, on the engine as it is at that moment.
  let engine := registry.engine number
  let generation := session.transaction.getD engine.generation
  let scope := database number (some ⟨some generation⟩)
  if generation ≠ engine.generation then (.error .connectionClosed, scope, registry)
  else if !engine.hasTables then (.error .tablesMissing, scope, registry)
  else
    let (answer, connection) := Rows.Connection.serve request now { rows := engine.current }
    (answer.mapError .failed, scope,
      registry.changeEngine number fun engine => { engine with current := connection.rows })

def ask (registry : Registry) (request : StoreRequest) (now : Timestamp) (scope : Scope) :
    Except ScopeError request.Answer × Scope × Registry :=
  match scope with
  | database number (some session) => askDatabase registry number session request now
  | cluster (some (number, client)) =>
    let (answer, client) := Cluster.Client.serve Cluster.Script.answer request now client
    (answer.mapError .failed, cluster (some (number, client)), registry)
  | database _ none => (.error .sessionMissing, scope, registry)
  | cluster none => (.error .notEntered, scope, registry)

end Scope

end ClaimOperator

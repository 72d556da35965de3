import ClaimOperator.Store.WriteRules
import ClaimOperator.Store.Port

/-! The store in a table of rows.

A row holds a manifest and, beside it, the key and an integer version of its own.
Every write reads first and then sends one statement that hits its row only if
the version is still the one that was read. A statement that hits nothing means
that somebody else was there in between.
-/

set_option autoImplicit false

namespace ClaimOperator

structure Row where
  kind : Kind
  key : ObjectKey
  version : Nat
  manifest : Json
  deriving DecidableEq

abbrev Rows := List Row

namespace Rows

def isAt (kind : Kind) (key : ObjectKey) (row : Row) : Bool := row.kind = kind && row.key = key

def isVersion (kind : Kind) (key : ObjectKey) (version : Nat) (row : Row) : Bool :=
  isAt kind key row && row.version = version

def find? (rows : Rows) (kind : Kind) (key : ObjectKey) : Option Row := List.find? (isAt kind key) rows

/-- Statements that change rows. An insertion gives way to a row with the same key. -/
inductive Statement where
  | insert (row : Row)
  | update (kind : Kind) (key : ObjectKey) (version : Nat) (row : Row)
  | delete (kind : Kind) (key : ObjectKey) (version : Nat)

namespace Statement

inductive Verb where
  | insert
  | update
  | delete
  deriving DecidableEq, Repr

def verb : Statement → Verb
  | insert _ => .insert
  | update .. => .update
  | delete .. => .delete

def execute (statement : Statement) (rows : Rows) : Nat × Rows :=
  match statement with
  | insert row =>
    match rows.find? row.kind row.key with
    | some _ => (0, rows)
    | none => (1, rows ++ [row])
  | update kind key version row =>
    (rows.countP (isVersion kind key version),
      rows.map fun current => if isVersion kind key version current then row else current)
  | delete kind key version =>
    (rows.countP (isVersion kind key version), rows.filter fun row => !isVersion kind key version row)

end Statement

def load (kind : Kind) (row : Row) : Except Failure (Object kind) :=
  match Manifest.decode kind row.manifest with
  | .ok object => .ok (object.withVersion (some (Text.decimal row.version)))
  | .error error => .error (.manifest error)

def get (rows : Rows) (kind : Kind) (key : ObjectKey) : Except Failure (Object kind × Nat) :=
  match rows.find? kind key with
  | some row => (load kind row).map (·, row.version)
  | none => .error (.store (.notFound kind key))

variable {kind : Kind}

/-- A write that is decided on: its statement, the answer if the statement hits a row, and the
error if it does not. -/
structure Write (α : Type) where
  statement : Statement
  answer : α
  missed : StoreError

def rowOf (object : Object kind) (version : Nat) : Row :=
  ⟨kind, object.key, version, Manifest.encode (object.withVersion (some (Text.decimal version)))⟩

def replaceRow (object : Object kind) (version : Nat) : Write (Option String) where
  statement := .update kind object.key version (rowOf object (version + 1))
  answer := some (Text.decimal (version + 1))
  missed := .overtaken kind object.key

def deleteRow (object : Object kind) (version : Nat) : Write (Option String) where
  statement := .delete kind object.key version
  answer := none
  missed := .overtaken kind object.key

def planCreate (rows : Rows) (object : Object kind) : Except Failure (Write (Option String)) :=
  match rows.find? kind object.key with
  | some _ => .error (.store (.alreadyExists kind object.key))
  | none => .ok
    { statement := .insert (rowOf (WriteRules.newborn object) 1)
      answer := some (Text.decimal 1)
      missed := .alreadyExists kind object.key }

def checkedVersion (stored incoming : Object kind) : Except Failure Unit :=
  (WriteRules.matchVersion stored incoming).mapError .store

-- The statement names the version that was read, not the one that the caller carried:
-- a write without a version still hits only the row that it was merged into.
def planUpdate (rows : Rows) (object : Object kind) : Except Failure (Write (Option String)) := do
  let (stored, version) ← rows.get kind object.key
  checkedVersion stored object
  let merged := WriteRules.revise stored object
  if WriteRules.isReleased merged then return deleteRow merged version
  else return replaceRow merged version

def planUpdateStatus (rows : Rows) (object : Object kind) : Except Failure (Write (Option String)) := do
  let (stored, version) ← rows.get kind object.key
  checkedVersion stored object
  return replaceRow (WriteRules.reviseStatus stored object) version

/-- Deleting an object that is already terminating writes nothing. -/
def planDelete (rows : Rows) (object : Object kind) (now : Timestamp) :
    Except Failure (Option (Write (Option String))) := do
  let (stored, version) ← rows.get kind object.key
  if WriteRules.isAwaitingRelease stored then return none
  else
    match WriteRules.mark? stored now with
    | none => return some (deleteRow stored version)
    | some marked => return some (replaceRow marked version)

/-- What another writer does between the reading and the statement. -/
inductive Interference where
  | bump
  | removeAll
  | insertSame
  deriving DecidableEq, Repr

def Interference.act (interference : Interference) (statement : Statement) (rows : Rows) : Rows :=
  match interference, statement with
  | bump, _ => rows.map fun row => { row with version := row.version + 1 }
  | removeAll, _ => []
  | insertSame, .insert row => (Statement.execute (.insert row) rows).2
  | insertSame, _ => rows

structure Race where
  verb : Statement.Verb
  interference : Interference

/-- The rows as a transaction sees them, and the writer who is to get in between, if any. -/
structure Connection where
  rows : Rows := []
  race : Option Race := none

namespace Connection

def meet (connection : Connection) (statement : Statement) : Connection :=
  match connection.race with
  | some race =>
    if race.verb = statement.verb then ⟨race.interference.act statement connection.rows, none⟩
    else connection
  | none => connection

def send (connection : Connection) (statement : Statement) : Nat × Connection :=
  let met := connection.meet statement
  let (hits, rows) := statement.execute met.rows
  (hits, { met with rows := rows })

def perform {α : Type} (connection : Connection) (plan : Except Failure (Write α)) :
    Except Failure α × Connection :=
  match plan with
  | .error failure => (.error failure, connection)
  | .ok write =>
    let (hits, connection) := connection.send write.statement
    if hits = 1 then (.ok write.answer, connection) else (.error (.store write.missed), connection)

def performDelete (connection : Connection) (plan : Except Failure (Option (Write (Option String)))) :
    Except Failure Unit × Connection :=
  match plan with
  | .error failure => (.error failure, connection)
  | .ok none => (.ok (), connection)
  | .ok (some write) =>
    let (answer, connection) := connection.perform (.ok write)
    (answer.map fun _ => (), connection)

open Procedure

def port : Port Connection where
  get kind key connection := ((connection.rows.get kind key).map (·.1), connection)
  create _ := stamped fun object connection => connection.perform (connection.rows.planCreate object)
  update _ := stamped fun object connection => connection.perform (connection.rows.planUpdate object)
  updateStatus _ := stamped fun object connection => connection.perform (connection.rows.planUpdateStatus object)
  delete _ now := onStore fun object connection => connection.performDelete (connection.rows.planDelete object now)

def serve : Service Connection := port.service

section Served

variable (object : Object kind) (now : Timestamp) (connection : Connection)

theorem serve_get (key : ObjectKey) :
    serve (.get kind key) now connection = ((connection.rows.get kind key).map (·.1), connection) :=
  port.service_get now connection key

theorem serve_create :
    serve (.create object) now connection = connection.perform (connection.rows.planCreate object) :=
  port.service_create object now connection rfl

theorem serve_update :
    serve (.update object) now connection = connection.perform (connection.rows.planUpdate object) :=
  port.service_update object now connection rfl

theorem serve_updateStatus :
    serve (.updateStatus object) now connection = connection.perform (connection.rows.planUpdateStatus object) :=
  port.service_updateStatus object now connection rfl

theorem serve_delete :
    serve (.delete object) now connection = connection.performDelete (connection.rows.planDelete object now) := by
  simp only [serve, Port.service, Port.call, port, onStore]

end Served

end Connection

end Rows

end ClaimOperator

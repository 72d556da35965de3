import ClaimOperator.Store.WriteRules
import ClaimOperator.Store.Port

/-! The store in memory.

Objects lie in one table per kind, found by their own keys. Versions are numbers
in decimal, counted over the whole store, so a version is given out only once.
-/

set_option autoImplicit false

namespace ClaimOperator

abbrev Table (kind : Kind) := List (Object kind)

namespace Table

variable {kind : Kind}

def find? (table : Table kind) (key : ObjectKey) : Option (Object kind) :=
  List.find? (fun object => object.key = key) table

def remove (table : Table kind) (key : ObjectKey) : Table kind :=
  table.filter fun object => object.key ≠ key

def put (table : Table kind) (object : Object kind) : Table kind := object :: remove table object.key

@[simp] theorem find?_put_self (table : Table kind) (object : Object kind) :
    find? (put table object) object.key = some object := by
  simp [find?, put]

theorem find?_remove (table : Table kind) (key other : ObjectKey) :
    find? (remove table key) other = if other = key then none else find? table other := by
  induction table with
  | nil => simp [find?, remove]
  | cons object rest ih =>
    simp only [find?, remove, List.find?_filter] at ih ⊢
    by_cases found : object.key = other
    · subst found
      by_cases removed : object.key = key
      · simp [removed]
      · simp [removed]
    · simpa [found] using ih

theorem find?_put_of_ne (table : Table kind) (object : Object kind) {other : ObjectKey}
    (different : other ≠ object.key) : find? (put table object) other = find? table other := by
  have step : find? (put table object) other = find? (remove table object.key) other := by
    simp [find?, put, Ne.symm different]
  rw [step, find?_remove, if_neg different]

@[simp] theorem find?_remove_self (table : Table kind) (key : ObjectKey) :
    find? (remove table key) key = none := by
  simp [find?_remove]

theorem key_of_find? {table : Table kind} {key : ObjectKey} {object : Object kind}
    (found : find? table key = some object) : object.key = key := by
  simpa using List.find?_some found

end Table

structure Tables where
  claims : Table .claim := []
  references : Table .reference := []
  nextVersion : Nat := 1

namespace Tables

def table (store : Tables) : (kind : Kind) → Table kind
  | .claim => store.claims
  | .reference => store.references

def withTable (store : Tables) : (kind : Kind) → Table kind → Tables
  | .claim, table => { store with claims := table }
  | .reference, table => { store with references := table }

@[simp] theorem table_withTable_self (store : Tables) (kind : Kind) (table : Table kind) :
    (store.withTable kind table).table kind = table := by cases kind <;> rfl

theorem table_withTable_of_ne (store : Tables) {kind other : Kind} (table : Table kind)
    (different : other ≠ kind) : (store.withTable kind table).table other = store.table other := by
  cases kind <;> cases other <;> first | rfl | exact absurd rfl different

@[simp] theorem nextVersion_withTable (store : Tables) (kind : Kind) (table : Table kind) :
    (store.withTable kind table).nextVersion = store.nextVersion := by cases kind <;> rfl

def find? (store : Tables) (kind : Kind) (key : ObjectKey) : Option (Object kind) :=
  (store.table kind).find? key

def remove (store : Tables) (kind : Kind) (key : ObjectKey) : Tables :=
  store.withTable kind ((store.table kind).remove key)

def objects (store : Tables) : List AnyObject :=
  store.claims.map (AnyObject.mk .claim) ++ store.references.map (AnyObject.mk .reference)

def freshVersion (store : Tables) : String := Text.decimal store.nextVersion

def save {kind : Kind} (store : Tables) (object : Object kind) : Tables :=
  let stamped := object.withVersion (some store.freshVersion)
  { store.withTable kind ((store.table kind).put stamped) with nextVersion := store.nextVersion + 1 }

def read (store : Tables) (kind : Kind) (key : ObjectKey) : Except Failure (Object kind) × Tables :=
  match store.find? kind key with
  | some object => (.ok object, store)
  | none => (.error (.store (.notFound kind key)), store)

variable {kind : Kind}

def require : Procedure Tables kind (Object kind) := do
  let ⟨store, record⟩ ← get
  match store.find? kind record.key with
  | some stored => return stored
  | none => throw (.store (.notFound kind record.key))

def checkVersion (stored : Object kind) : Procedure Tables kind Unit := do
  ofExcept ((WriteRules.matchVersion stored (← Procedure.record)).mapError .store)

/-- Store an object, which need not be the record, and return its version. -/
def persist (object : Object kind) : Procedure Tables kind String :=
  modifyGet fun writing => (writing.store.freshVersion, { writing with store := writing.store.save object })

def withdraw : Procedure Tables kind Unit :=
  modify fun writing => { writing with store := writing.store.remove kind writing.record.key }

def create : Procedure Tables kind Unit := do
  let ⟨store, record⟩ ← get
  match store.find? kind record.key with
  | some _ => throw (.store (.alreadyExists kind record.key))
  | none => Procedure.stamp (some (← persist (WriteRules.newborn record)))

def update : Procedure Tables kind Unit := do
  let stored ← require
  checkVersion stored
  let merged := WriteRules.revise stored (← Procedure.record)
  if WriteRules.isReleased merged then
    withdraw
    Procedure.stamp none
  else Procedure.stamp (some (← persist merged))

def updateStatus : Procedure Tables kind Unit := do
  let stored ← require
  checkVersion stored
  let merged := WriteRules.reviseStatus stored (← Procedure.record)
  Procedure.stamp (some (← persist merged))

-- The record keeps the version that it has, whatever version is stored now.
def delete (now : Timestamp) : Procedure Tables kind Unit := do
  let stored ← require
  if WriteRules.isAwaitingRelease stored then return
  else
    match WriteRules.mark? stored now with
    | none => withdraw
    | some marked => discard (persist marked)

def port : Port Tables where
  get kind key store := store.read kind key
  create _ := create
  update _ := update
  updateStatus _ := updateStatus
  delete _ now := delete now

def serve : Service Tables := port.service

end Tables

end ClaimOperator

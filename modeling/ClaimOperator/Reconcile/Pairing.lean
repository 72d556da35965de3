import ClaimOperator.Reconcile.ErrorCondition
import ClaimOperator.Reconcile.PhaseGate
import ClaimOperator.Reconcile.ReferenceKey
import ClaimOperator.Resource.Finalizers
import ClaimOperator.Store.Action

/-! A claim paired with its reference, and the operations on the pair.

The pair holds a snapshot of the claim. Each operation changes the snapshot first
and then asks the store to keep the change, so a snapshot that could not be
written stays changed. An operation whose intent already holds asks for nothing.
Nothing is tried twice here; a failure goes to the caller.
-/

set_option autoImplicit false

namespace ClaimOperator

structure Pairing where
  claim : Claim
  reference : Reference
  found : Option Reference := none

def Pairing.of (claim : Claim) (referenceSpace : String) : Pairing where
  claim := claim
  reference := claim.draftReference referenceSpace

/-- Whether an operation wrote to the store. -/
inductive Change where
  | unchanged
  | modified
  deriving DecidableEq, Repr

def Change.text : Change → String
  | unchanged => "unchanged"
  | modified => "modified"

/-- When an operation fails, what it has changed in the pair so far stays changed. -/
abbrev Operation := ExceptT Failure (StateT Pairing Action)

namespace Operation

variable {α : Type}

def lift (action : Action α) : Operation α := ExceptT.lift (StateT.lift action)

def ask (request : StoreRequest) : Operation request.Answer := ExceptT.mk (StateT.lift (Action.ask request))

def note (level : Log.Level) (message : String) : Operation Unit :=
  lift (Action.note level .application message)

def notingFailure (message : String) (operation : Operation α) : Operation α :=
  tryCatch operation fun failure => do
    note .error message
    throw failure

def runOn (operation : Operation α) (pairing : Pairing) : Action (Except Failure α × Pairing) :=
  StateT.run (ExceptT.run operation) pairing

end Operation

def ClaimPhase.shown : Option ClaimPhase → String
  | some phase => phase.text
  | none => "(none)"

namespace Pairing

open Operation

def referenceKey (pairing : Pairing) : ObjectKey := pairing.reference.key

def changeClaim (change : Claim → Claim) : Operation Unit :=
  modify fun pairing => { pairing with claim := change pairing.claim }

def currentClaim : Operation Claim := return (← get).claim

/-- What is logged about a claim names it by kind and key. -/
def claimTitle (claim : Claim) : String := "ProjectClaim " ++ claim.key.text

def writeClaim : Operation Unit := do
  let version ← ask (.update (← currentClaim))
  changeClaim (·.withVersion version)

def writeStatus : Operation Unit := do
  let claim ← currentClaim
  notingFailure ("Failed to update ProjectClaim state for " ++ claim.key.name) do
    let version ← ask (.updateStatus claim)
    changeClaim (·.withVersion version)

/-- Whether the reference is stored; what was found is remembered. -/
def findReference : Operation Bool := do
  let key := (← get).referenceKey
  let found : Option Reference ← tryCatch (some <$> ask (.get .reference key)) fun
    | .store error => if error.category = .notFound then pure none else throw (.store error)
    | failure => throw failure
  -- A miss also forgets what an earlier look found.
  modify fun pairing => { pairing with found := found }
  return found.isSome

def isReferenceLeaving (pairing : Pairing) : Bool :=
  (pairing.found.getD pairing.reference).isLeaving

def openConditions : Operation Change := do
  let claim ← currentClaim
  if claim.status.conditions.isSome then return .unchanged
  changeClaim fun claim => { claim with status.conditions := some [] }
  writeStatus
  return .modified

def linkReference : Operation Change := do
  let pairing ← get
  if pairing.claim.spec.referenceLink = pairing.referenceKey then return .unchanged
  note .info <| "Linking " ++ claimTitle pairing.claim ++ " to ProjectReference " ++ pairing.referenceKey.text
  changeClaim fun claim => { claim with spec.referenceLink := pairing.referenceKey }
  writeClaim
  return .modified

def holdClaim : Operation Change := do
  let claim ← currentClaim
  if claim.hasMarker then return .unchanged
  changeClaim Object.addMarker
  note .info <| "Adding finalizer to " ++ claimTitle claim
  notingFailure ("Failed to update " ++ claimTitle claim ++ " with finalizer") writeClaim
  return .modified

def releaseClaim : Operation Change := do
  let claim ← currentClaim
  if !claim.hasMarker then return .unchanged
  changeClaim Object.removeMarker
  note .info <| "Removing finalizer from " ++ claimTitle claim
  writeClaim
  return .modified

def provideReference : Operation Change := do
  if ← findReference then return .unchanged
  let pairing ← get
  note .info <| "Creating ProjectReference " ++ pairing.referenceKey.text
  let version ← ask (.create pairing.reference)
  modify fun pairing => { pairing with reference := pairing.reference.withVersion version }
  return .modified

/-- A reference that is gone already counts as deleted. -/
def discardReference : Operation Unit := do
  let pairing ← get
  let target := pairing.found.getD pairing.reference
  note .info <| "Deleting ProjectReference " ++ target.key.text
  tryCatch (ask (.delete target)) fun
    | .store error =>
      if error.category = .notFound then
        note .debug <| "ProjectReference " ++ target.key.text ++ " already gone"
      else throw (.store error)
    | failure => throw failure

def enterPhase (target : ClaimPhase) : Operation Change := do
  let claim ← currentClaim
  let current := claim.status.phase
  if !target.canFollow current then return .unchanged
  note .info <|
    "Moving " ++ claimTitle claim ++ " from phase " ++ ClaimPhase.shown current ++ " to " ++ target.text
  changeClaim fun claim => { claim with status.phase := some target }
  writeStatus
  return .modified

def recordCondition (update : ConditionUpdate) : Operation Change := do
  let now ← lift Action.clock
  match (← currentClaim).status.update? update now with
  | none => return .unchanged
  | some status =>
    changeClaim fun claim => { claim with status := status }
    writeStatus
    return .modified

/-- One step of deletion. The reference goes first: while it is stored its deletion is requested, once,
and the claim keeps its marker, so the claim cannot leave the store before a later pass finds the
reference gone. -/
def advanceDeletion : Operation Change := do
  if ← findReference then
    unless (← get).isReferenceLeaving do discardReference
    return .unchanged
  else releaseClaim

end Pairing

end ClaimOperator

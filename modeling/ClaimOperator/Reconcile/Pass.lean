import ClaimOperator.Reconcile.Pairing

/-! One reconciliation pass over a claim.

A pass runs the operations on a pair in a fixed order. Three of them end the pass
when they wrote, so that the next pass starts from a fresh read. A store error is
recorded on the claim as far as possible and then handed to the caller. A claim
whose deletion is requested is only finalized.
-/

set_option autoImplicit false

namespace ClaimOperator

inductive Step where
  | deletion
  | conditions
  | pendingPhase
  | link
  | marker
  | reference
  | pendingProjectPhase
  | recovery
  deriving DecidableEq, Repr

/-- The name of a step is the reason under which its failure is recorded. -/
def Step.text : Step → String
  | deletion => "FinalizeFailed"
  | conditions => "InitializeFailed"
  | pendingPhase => "SetPendingFailed"
  | link => "ReferenceLinkFailed"
  | marker => "FinalizerFailed"
  | reference => "ReferenceCreationFailed"
  | pendingProjectPhase => "SetPendingProjectFailed"
  | recovery => "ClearErrorFailed"

def settledReason : String := "Reconciled"

/-- Whether another pass is asked for, and the step that decided it. -/
structure PassResult where
  requeue : Bool
  step : Option Step := none
  deriving DecidableEq, Repr

namespace Pass

open Operation Pairing

def note (level : Log.Level) (message : String) : Operation Unit :=
  lift (Action.note level .reconcile message)

/-- Record a step's error on the claim. A store error on the way is only logged. -/
def noteOnClaim (step : Step) (error : StoreError) : Operation Unit :=
  tryCatch (discard <| recordCondition ⟨.isTrue, step.text, error.message⟩) fun
    | .store _ => do
      note .error <| "Could not record " ++ step.text ++ " on " ++ claimTitle (← currentClaim)
    | failure => throw failure

def onStoreError (step : Step) (records : Bool) (error : StoreError) : Operation Change := do
  note .warning <|
    "Step " ++ step.text ++ " failed for " ++ claimTitle (← currentClaim) ++ ": " ++ error.message
  if records then noteOnClaim step error
  throw (.store error)

def attempt (step : Step) (records : Bool) (operation : Operation Change) : Operation Change :=
  tryCatch operation fun
    | .store error => onStoreError step records error
    | failure => throw failure

def retireError : Operation Change := do
  match (← currentClaim).status.errorCondition? with
  | none => return .unchanged
  | some condition =>
    if condition.status = .isFalse then return .unchanged
    else recordCondition ⟨.isFalse, settledReason, ""⟩

/-- A step of a pass over a live claim, and whether the pass ends there once it wrote. -/
structure Stage where
  step : Step
  operation : Operation Change
  endsPass : Bool

-- The marker comes before the reference: the claim is held before there is anything to hold
-- it for, and the link is written before what it points to.
def stages : List Stage :=
  [⟨.conditions, openConditions, true⟩,
    ⟨.pendingPhase, enterPhase .pending, false⟩,
    ⟨.link, linkReference, true⟩,
    ⟨.marker, holdClaim, true⟩,
    ⟨.reference, provideReference, false⟩,
    ⟨.pendingProjectPhase, enterPhase .pendingProject, false⟩]

def runStages : List Stage → Operation (Option Step)
  | [] => return none
  | stage :: rest => do
    let change ← attempt stage.step true stage.operation
    if stage.endsPass && change = .modified then return some stage.step
    else runStages rest

def runLive : Operation PassResult := do
  match ← runStages stages with
  | some step => return ⟨true, some step⟩
  | none =>
    discard <| attempt .recovery false retireError
    return ⟨false, none⟩

def runDeleted : Operation PassResult := do
  discard <| attempt .deletion false advanceDeletion
  let claim ← currentClaim
  if claim.hasMarker then return ⟨true, some .deletion⟩
  note .info <| claimTitle claim ++ " finalized"
  return ⟨false, some .deletion⟩

def run : Operation PassResult := do
  if (← currentClaim).isLeaving then runDeleted else runLive

end Pass

end ClaimOperator

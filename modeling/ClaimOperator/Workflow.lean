import ClaimOperator.Reconcile.Pass
import ClaimOperator.Store.Transaction

/-! What the operator does with a claim, in units of work.

A pass whose store failed keeps the writes that succeeded, since each is valid on
its own, and the failure still goes to the caller. Settling runs passes, each in
its own unit of work, until one asks for no other or the limit is reached.
-/

set_option autoImplicit false

namespace ClaimOperator

def Step.shown : Option Step → String
  | some step => step.text
  | none => "None"

def PassResult.shown (result : PassResult) : String :=
  "requeue=" ++ (if result.requeue then "True" else "False") ++ ", step=" ++ Step.shown result.step

namespace Workflow

variable {α : Type}

def note (level : Log.Level) (message : String) : Action Unit := Action.note level .application message

def keep (value : α) : Action (Verdict α) := return ⟨.ok value, true⟩

def abandon (failure : Failure) : Action (Verdict α) := return ⟨.error failure, false⟩

def passVerdict (key : ObjectKey) : Except Failure PassResult → Action (Verdict (Option PassResult))
  | .ok result => do
    note .info <| "Reconciled ProjectClaim " ++ key.text ++ ": " ++ result.shown
    keep (some result)
  -- The error condition that the pass may have recorded is among the writes to keep.
  | .error (.store error) => return ⟨.error (.store error), true⟩
  | .error failure => abandon failure

def reconcile (referenceSpace : String) (key : ObjectKey) : Action (Verdict (Option PassResult)) := do
  match ← Action.ask (.get .claim key) with
  | .ok claim =>
    let (outcome, _) ← Pass.run.runOn (.of claim referenceSpace)
    passVerdict key outcome
  | .error (.store error) =>
    if error.category = .notFound then
      note .info <| "ProjectClaim " ++ key.text ++ " not found, nothing to reconcile"
      return ⟨.ok none, false⟩
    else abandon (.store error)
  | .error failure => abandon failure

def newClaim (key : ObjectKey) (entity : LegalEntity) (region : String) : Claim where
  metadata := { key := key }
  spec := { legalEntity := entity, region := region }
  status := {}

def create (key : ObjectKey) (entity : LegalEntity) (region : String) : Action (Verdict Claim) := do
  let claim := newClaim key entity region
  match ← Action.ask (.create claim) with
  | .ok version =>
    note .info <| "Created ProjectClaim " ++ key.text
    keep (claim.withVersion version)
  | .error failure => abandon failure

/-- Ask the store to remove a claim. Finalizers keep it until it is reconciled. -/
def requestDeletion (key : ObjectKey) : Action (Verdict Unit) := do
  match ← Action.ask (.get .claim key) with
  | .error failure => abandon failure
  | .ok claim =>
    match ← Action.ask (.delete claim) with
    | .ok () =>
      note .info <| "Requested deletion of ProjectClaim " ++ key.text
      keep ()
    | .error failure => abandon failure

def find (key : ObjectKey) : Action (Verdict Claim) := do
  let outcome ← Action.ask (.get .claim key)
  return ⟨outcome, false⟩

section Settling

variable {σ : Type} [Transactional σ]

def defaultPassLimit : Int := 10

/-- At most `remaining` further passes; `done` have been run. -/
def settleFrom (serve : Service σ) (now : Timestamp) (referenceSpace : String) (key : ObjectKey)
    (done : Nat) (last : Option PassResult) :
    (remaining : Nat) → Session σ → Except Failure (Option PassResult) × Session σ
  | 0, session =>
    (.ok last, session.note .warning .application <|
      "ProjectClaim " ++ key.text ++ " still requeueing after " ++ Text.decimal done ++ " passes")
  | remaining + 1, session =>
    match session.transact serve now (reconcile referenceSpace key) with
    | (.ok (some result), session) =>
      if result.requeue then
        settleFrom serve now referenceSpace key (done + 1) (some result) remaining <|
          session.note .debug .application <|
            "ProjectClaim " ++ key.text ++ " requeued after pass " ++ Text.decimal (done + 1)
      else (.ok (some result), session)
    | settled => settled

/-- Passes over a claim until one asks for no other, up to a limit of at least one. -/
def settle (serve : Service σ) (now : Timestamp) (referenceSpace : String) (key : ObjectKey)
    (limit : Int) (session : Session σ) : Except Failure (Option PassResult) × Session σ :=
  if limit < 1 then (.error (.breakdown (.value "max_passes must be at least 1")), session)
  else settleFrom serve now referenceSpace key 0 none limit.toNat session

end Settling

end Workflow

end ClaimOperator

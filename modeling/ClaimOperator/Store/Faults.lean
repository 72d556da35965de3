import ClaimOperator.Store.Service

/-! Faults: requests that fail before a store is asked.

A fault names an operation and a kind. It lets some requests through, then fails
some, and is gone; a fault without a count fails all that follow. A new fault
takes the place of one for the same operation and kind.
-/

set_option autoImplicit false

namespace ClaimOperator

structure Fault where
  operation : StoreOperation
  kind : Kind
  failure : Failure
  skips : Nat := 0
  remaining : Option Nat := none

namespace Fault

def concerns (fault : Fault) (request : StoreRequest) : Bool :=
  fault.operation = request.operation && fault.kind = request.kind

end Fault

abbrev Faults := List Fault

namespace Faults

def inject (faults : Faults) (fault : Fault) : Faults :=
  fault :: faults.filter fun other => !(other.operation = fault.operation && other.kind = fault.kind)

/-- What a fault does to a request that it concerns: the failure, if any, and what is left of it. -/
def trip (fault : Fault) : Option Failure × Option Fault :=
  match fault.skips, fault.remaining with
  | skips + 1, _ => (none, some { fault with skips := skips })
  | 0, none => (some fault.failure, some fault)
  | 0, some 0 => (none, none)
  | 0, some 1 => (some fault.failure, none)
  | 0, some (more + 2) => (some fault.failure, some { fault with remaining := some (more + 1) })

def screen (request : StoreRequest) : Faults → Option Failure × Faults
  | [] => (none, [])
  | fault :: rest =>
    if fault.concerns request then
      let (failure, left) := trip fault
      (failure, left.toList ++ rest)
    else
      let (failure, rest) := screen request rest
      (failure, fault :: rest)

end Faults

structure Faulty (σ : Type) where
  store : σ
  faults : Faults := []

def Service.guarded {σ : Type} (serve : Service σ) : Service (Faulty σ) := fun request now state =>
  let (failure, faults) := state.faults.screen request
  match failure with
  | some failure => (.error failure, { state with faults := faults })
  | none =>
    let (answer, store) := serve request now state.store
    (answer, ⟨store, faults⟩)

end ClaimOperator

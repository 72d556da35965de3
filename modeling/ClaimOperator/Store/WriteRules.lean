import ClaimOperator.Resource.Object
import ClaimOperator.Store.Failure

/-! The life of a stored object, by the rules that the local stores share.

An update writes metadata and spec and keeps the stored status and deletion time;
a status update writes the status and keeps everything else. Deleting an object
that has finalizers only records the deletion time, and the object leaves the
store once an update takes its last finalizer off. A write that carries a version
other than the stored one is refused.
-/

set_option autoImplicit false

namespace ClaimOperator.WriteRules

variable {kind : Kind}

def matchVersion (stored incoming : Object kind) : Except StoreError Unit :=
  match incoming.metadata.version with
  | none => .ok ()
  | some carried =>
    if some carried = stored.metadata.version then .ok ()
    else .error (.stale kind incoming.key carried stored.metadata.version)

def newborn (incoming : Object kind) : Object kind :=
  { incoming with metadata := { incoming.metadata with deletionTime := none } }

def revise (stored incoming : Object kind) : Object kind :=
  { incoming with
    metadata := { incoming.metadata with deletionTime := stored.metadata.deletionTime }
    status := stored.status }

def reviseStatus (stored incoming : Object kind) : Object kind :=
  { stored with status := incoming.status }

def isHeld (object : Object kind) : Bool := !object.metadata.finalizers.isEmpty

def isReleased (object : Object kind) : Bool := object.isLeaving && !isHeld object

def isAwaitingRelease (object : Object kind) : Bool := object.isLeaving && isHeld object

/-- The object marked for deletion, or nothing when it may be removed right away. -/
def mark? (stored : Object kind) (now : Timestamp) : Option (Object kind) :=
  if isHeld stored then
    some { stored with
      metadata := { stored.metadata with deletionTime := some (stored.metadata.deletionTime.getD now) } }
  else none

@[simp] theorem key_newborn (incoming : Object kind) : (newborn incoming).key = incoming.key := rfl

@[simp] theorem key_revise (stored incoming : Object kind) :
    (revise stored incoming).key = incoming.key := rfl

@[simp] theorem key_reviseStatus (stored incoming : Object kind) :
    (reviseStatus stored incoming).key = stored.key := rfl

theorem matchVersion_eq_ok_iff (stored incoming : Object kind) :
    matchVersion stored incoming = .ok () ↔
      incoming.metadata.version = none ∨ incoming.metadata.version = stored.metadata.version := by
  unfold matchVersion
  cases incoming.metadata.version with
  | none => simp
  | some carried => by_cases same : some carried = stored.metadata.version <;> simp [same]

end ClaimOperator.WriteRules

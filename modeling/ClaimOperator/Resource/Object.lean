import ClaimOperator.Resource.Reference

/-! Stored objects: metadata, spec and status.

The kind of an object fixes the types of its spec and its status, so a rule that
looks at neither is stated once for all kinds.
-/

set_option autoImplicit false

namespace ClaimOperator

@[reducible] def Kind.Spec : Kind → Type
  | .claim => ClaimSpec
  | .reference => ReferenceSpec

@[reducible] def Kind.Status : Kind → Type
  | .claim => ClaimStatus
  | .reference => ReferenceStatus

instance (kind : Kind) : DecidableEq kind.Spec := by cases kind <;> exact inferInstance

instance (kind : Kind) : DecidableEq kind.Status := by cases kind <;> exact inferInstance

/-- The deletion time is set once, when removal is requested, and never cleared. The version is the
store's token for optimistic concurrency; an object that carries none is written unconditionally. -/
structure Metadata where
  key : ObjectKey
  finalizers : List String := []
  deletionTime : Option Timestamp := none
  version : Option String := none
  deriving DecidableEq, Repr

structure Object (kind : Kind) where
  metadata : Metadata
  spec : kind.Spec
  status : kind.Status
  deriving DecidableEq

abbrev Claim := Object .claim

abbrev Reference := Object .reference

namespace Object

variable {kind : Kind}

abbrev key (object : Object kind) : ObjectKey := object.metadata.key

def isLeaving (object : Object kind) : Bool := object.metadata.deletionTime.isSome

def withVersion (object : Object kind) (version : Option String) : Object kind :=
  { object with metadata := { object.metadata with version := version } }

@[simp] theorem key_withVersion (object : Object kind) (version : Option String) :
    (object.withVersion version).key = object.key := rfl

@[simp] theorem version_withVersion (object : Object kind) (version : Option String) :
    (object.withVersion version).metadata.version = version := rfl

end Object

structure AnyObject where
  kind : Kind
  object : Object kind

def AnyObject.title (any : AnyObject) : Kind × ObjectKey := (any.kind, any.object.key)

end ClaimOperator

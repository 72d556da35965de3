import ClaimOperator.Store.Service

/-! Ports: the calls that a store offers.

A write is handed a record of the caller's. It works on the store and on that record, and where it fails, both
are left as they are at that point. A service is what is seen of a port when nobody looks at the record.
-/

set_option autoImplicit false

namespace ClaimOperator

structure Writing (σ : Type) (kind : Kind) where
  store : σ
  record : Object kind

abbrev Procedure (σ : Type) (kind : Kind) := ExceptT Failure (StateM (Writing σ kind))

namespace Procedure

variable {σ α : Type} {kind : Kind}

def record : Procedure σ kind (Object kind) := return (← get).record

def onStore (work : Object kind → σ → Except Failure α × σ) : Procedure σ kind α := fun writing =>
  let (outcome, store) := work writing.record writing.store
  (outcome, { writing with store := store })

def stamp (version : Option String) : Procedure σ kind Unit :=
  modify fun writing => { writing with record := writing.record.withVersion version }

/-- Work on the store, and give the record the version that comes of it. -/
def stamped (work : Object kind → σ → Except Failure (Option String) × σ) : Procedure σ kind Unit := do
  stamp (← onStore work)

section Applied

variable {β : Type} (writing : Writing σ kind)

@[simp] theorem pure_apply (value : α) : (pure value : Procedure σ kind α) writing = (.ok value, writing) := rfl

@[simp] theorem throw_apply (failure : Failure) :
    (throw failure : Procedure σ kind α) writing = (.error failure, writing) := rfl

@[simp] theorem get_apply : (get : Procedure σ kind (Writing σ kind)) writing = (.ok writing, writing) := rfl

@[simp] theorem record_apply : (record : Procedure σ kind (Object kind)) writing = (.ok writing.record, writing) := rfl

@[simp] theorem stamp_apply (version : Option String) :
    stamp version writing = (.ok (), { writing with record := writing.record.withVersion version }) := rfl

@[simp] theorem bind_apply (first : Procedure σ kind α) (next : α → Procedure σ kind β) :
    (first >>= next) writing =
      match first writing with
      | (.ok value, reached) => next value reached
      | (.error failure, reached) => (.error failure, reached) := by
  show ExceptT.bindCont next (first writing).1 (first writing).2 = _
  obtain ⟨_ | value, reached⟩ := first writing <;> rfl

end Applied

end Procedure

structure Port (σ : Type) where
  get (kind : Kind) (key : ObjectKey) (store : σ) : Except Failure (Object kind) × σ
  create (kind : Kind) : Procedure σ kind Unit
  update (kind : Kind) : Procedure σ kind Unit
  updateStatus (kind : Kind) : Procedure σ kind Unit
  delete (kind : Kind) (now : Timestamp) : Procedure σ kind Unit

structure Called (σ : Type) (request : StoreRequest) where
  answer : Except Failure request.Answer
  /-- What whoever asked holds then: the record that was handed in, or the one that was read. -/
  record : Option AnyObject
  store : σ

namespace Port

variable {σ : Type}

/-- A write is answered with the version that the record has afterwards. -/
def answer {kind : Kind} (outcome : Except Failure Unit) (left : Writing σ kind) : Except Failure (Option String) :=
  outcome.map fun () => left.record.metadata.version

def call (port : Port σ) : (request : StoreRequest) → Timestamp → σ → Called σ request
  | .get kind key, _, store =>
    let (answer, store) := port.get kind key store
    ⟨answer, answer.toOption.map (AnyObject.mk kind), store⟩
  | @StoreRequest.create kind object, _, store =>
    let (outcome, left) := port.create kind ⟨store, object⟩
    ⟨answer outcome left, some ⟨kind, left.record⟩, left.store⟩
  | @StoreRequest.update kind object, _, store =>
    let (outcome, left) := port.update kind ⟨store, object⟩
    ⟨answer outcome left, some ⟨kind, left.record⟩, left.store⟩
  | @StoreRequest.updateStatus kind object, _, store =>
    let (outcome, left) := port.updateStatus kind ⟨store, object⟩
    ⟨answer outcome left, some ⟨kind, left.record⟩, left.store⟩
  | @StoreRequest.delete kind object, now, store =>
    let (outcome, left) := port.delete kind now ⟨store, object⟩
    ⟨outcome, some ⟨kind, left.record⟩, left.store⟩

def service (port : Port σ) : Service σ := fun request now store =>
  let ⟨answer, _, store⟩ := port.call request now store
  (answer, store)

section Served

/-! What is seen of calls that work on the store, and stamp the record last if at all. -/

variable (port : Port σ) {kind : Kind} {work : Object kind → σ → Except Failure (Option String) × σ}
  (object : Object kind) (now : Timestamp) (store : σ)

theorem service_get (key : ObjectKey) : port.service (.get kind key) now store = port.get kind key store := by
  simp only [service, call]

theorem answer_of_stamped {write : Procedure σ kind Unit} (stamped : write = .stamped work) :
    (answer (write ⟨store, object⟩).1 (write ⟨store, object⟩).2, (write ⟨store, object⟩).2.store) =
      work object store := by
  simp only [stamped, Procedure.stamped, Procedure.bind_apply, Procedure.onStore]
  obtain ⟨_ | version, after⟩ := work object store <;> rfl

theorem service_create (stamped : port.create kind = .stamped work) :
    port.service (.create object) now store = work object store := answer_of_stamped object store stamped

theorem service_update (stamped : port.update kind = .stamped work) :
    port.service (.update object) now store = work object store := answer_of_stamped object store stamped

theorem service_updateStatus (stamped : port.updateStatus kind = .stamped work) :
    port.service (.updateStatus object) now store = work object store := answer_of_stamped object store stamped

end Served

end Port

end ClaimOperator

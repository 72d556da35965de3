import ClaimOperator.Proofs.Store.TableContents
import ClaimOperator.Store.Rows

/-! What a call leaves behind where it fails.

A port is tidy if a call that fails leaves the record as it was handed in, and one that succeeds gives it another
version at most. So the answers of a tidy port say what becomes of the record. The store in memory makes all its
checks before it changes anything; where it fails, it is itself as it was.
-/

set_option autoImplicit false

namespace ClaimOperator

namespace StoreRequest

def handed? : StoreRequest → Option AnyObject
  | get .. => none
  | create object | update object | updateStatus object | delete object => some ⟨_, object⟩

/-- What whoever asked is to hold, by the answer. -/
def heldAfter (request : StoreRequest) : Except Failure request.Answer → Option AnyObject
  | .ok answer => some (request.held answer)
  | .error _ => request.handed?

end StoreRequest

variable {σ : Type} {kind : Kind}

/-- How a tidy write may leave things. -/
inductive Writing.Leaves (before : Writing σ kind) : Except Failure Unit × Writing σ kind → Prop
  | failed (failure : Failure) (store : σ) : before.Leaves (.error failure, ⟨store, before.record⟩)
  | done (version : Option String) (store : σ) :
    before.Leaves (.ok (), ⟨store, before.record.withVersion version⟩)

theorem Writing.Leaves.record_eq {before : Writing σ kind} {left : Except Failure Unit × Writing σ kind}
    (leaves : before.Leaves left) (held : Except Failure (Option String) → Option AnyObject)
    (taken : ∀ version, held (.ok version) = some ⟨kind, before.record.withVersion version⟩)
    (refused : ∀ failure, held (.error failure) = some ⟨kind, before.record⟩) :
    some ⟨kind, left.2.record⟩ = held (Port.answer left.1 left.2) := by
  cases leaves with
  | failed failure store => exact (refused failure).symm
  | done version store => exact (taken version).symm

def Procedure.Tidy (write : Procedure σ kind Unit) : Prop := ∀ before : Writing σ kind, before.Leaves (write before)

theorem Procedure.tidy_stamped (work : Object kind → σ → Except Failure (Option String) × σ) :
    Procedure.Tidy (.stamped work) := by
  intro before
  simp only [stamped, bind_apply, onStore]
  obtain ⟨failure | version, after⟩ := work before.record before.store
  · exact .failed failure after
  · exact .done version after

theorem Procedure.record_onStore (work : Object kind → σ → Except Failure Unit × σ) (before : Writing σ kind) :
    (onStore work before).2.record = before.record := rfl

structure Port.Tidy (port : Port σ) : Prop where
  create : ∀ kind, (port.create kind).Tidy
  update : ∀ kind, (port.update kind).Tidy
  updateStatus : ∀ kind, (port.updateStatus kind).Tidy
  delete : ∀ kind now before, (port.delete kind now before).2.record = before.record

namespace Port.Tidy

open StoreRequest (heldAfter)

variable {port : Port σ}

/-- What is in the record after a call can be told from the answer. -/
theorem record_call (tidy : port.Tidy) (request : StoreRequest) (now : Timestamp) (store : σ) :
    (port.call request now store).record = request.heldAfter (port.call request now store).answer := by
  cases request with
  | get kind key =>
    simp only [call]
    cases (port.get kind key store).1 <;> rfl
  | @create kind object =>
    exact (tidy.create kind ⟨store, object⟩).record_eq (heldAfter (.create object)) (fun _ => rfl) fun _ => rfl
  | @update kind object =>
    exact (tidy.update kind ⟨store, object⟩).record_eq (heldAfter (.update object)) (fun _ => rfl) fun _ => rfl
  | @updateStatus kind object =>
    exact (tidy.updateStatus kind ⟨store, object⟩).record_eq (heldAfter (.updateStatus object)) (fun _ => rfl)
      fun _ => rfl
  | @delete kind object =>
    have same := tidy.delete kind now ⟨store, object⟩
    simp only [call]
    generalize port.delete kind now ⟨store, object⟩ = left at same
    obtain ⟨_ | _, after⟩ := left <;> exact congrArg (some ∘ AnyObject.mk kind) same

theorem record_of_failed (tidy : port.Tidy) {request : StoreRequest} {now : Timestamp} {store : σ} {failure : Failure}
    (failed : (port.call request now store).answer = .error failure) :
    (port.call request now store).record = request.handed? := by
  rw [tidy.record_call, failed]
  rfl

end Port.Tidy

namespace Tables

theorem tidy_create : (create : Procedure Tables kind Unit).Tidy := by
  rintro ⟨store, object⟩
  rw [create_apply]
  split
  · exact .failed _ store
  · exact .done _ _

theorem tidy_update : (update : Procedure Tables kind Unit).Tidy := by
  rintro ⟨store, object⟩
  rw [update_apply]
  split
  · split
    · split
      · exact .done none _
      · exact .done _ _
    · exact .failed _ store
  · exact .failed _ store

theorem tidy_updateStatus : (updateStatus : Procedure Tables kind Unit).Tidy := by
  rintro ⟨store, object⟩
  rw [updateStatus_apply]
  split
  · split
    · exact .done _ _
    · exact .failed _ store
  · exact .failed _ store

theorem record_delete (now : Timestamp) (before : Writing Tables kind) :
    (delete now before).2.record = before.record := by
  obtain ⟨store, object⟩ := before
  rw [delete_apply]
  split
  · split <;> rfl
  · rfl

theorem tidy_port : port.Tidy where
  create _ := tidy_create
  update _ := tidy_update
  updateStatus _ := tidy_updateStatus
  delete _ := record_delete

/-- The result of a request that is refused, if at all, before anything was changed. -/
def Kept {α : Type} (store : Tables) (result : Except Failure α × Tables) : Prop :=
  ∀ failure, result.1 = .error failure → result.2 = store

theorem kept_ok {α : Type} (store after : Tables) (answer : α) : Kept store (.ok answer, after) := nofun

theorem kept_error {α : Type} (store : Tables) (failure : Failure) :
    Kept store ((.error failure : Except Failure α), store) := fun _ _ => rfl

theorem kept_serve (request : StoreRequest) (now : Timestamp) (store : Tables) :
    Kept store (serve request now store) := by
  cases request with
  | get kind key =>
    rw [serve_get]
    exact fun _ _ => rfl
  | create object =>
    rw [serve_create]
    split
    · exact kept_error store _
    · exact kept_ok store _ _
  | update object =>
    rw [serve_update]
    split
    · split
      · split
        · exact kept_ok store _ _
        · exact kept_ok store _ _
      · exact kept_error store _
    · exact kept_error store _
  | updateStatus object =>
    rw [serve_updateStatus]
    split
    · split
      · exact kept_ok store _ _
      · exact kept_error store _
    · exact kept_error store _
  | delete object =>
    rw [serve_delete]
    split
    · split
      · exact kept_ok store _ _
      · exact kept_ok store _ _
    · exact kept_error store _

end Tables

theorem Rows.Connection.tidy_port : Rows.Connection.port.Tidy where
  create _ := Procedure.tidy_stamped _
  update _ := Procedure.tidy_stamped _
  updateStatus _ := Procedure.tidy_stamped _
  delete _ _ := Procedure.record_onStore _

end ClaimOperator

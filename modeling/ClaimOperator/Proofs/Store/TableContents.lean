import ClaimOperator.Proofs.Store.Contents
import ClaimOperator.Store.Tables

/-! The contents of the store in memory, and what one request does to it. -/

set_option autoImplicit false

namespace ClaimOperator.Tables

theorem keyed_find? (store : Tables) : Contents.Keyed store.find? :=
  fun _ _ _ found => Table.key_of_find? found

theorem find?_withTable (store : Tables) (kind : Kind) (table : Table kind) (key : ObjectKey)
    (entry : Entry kind) (here : table.find? key = entry)
    (elsewhere : ∀ other, other ≠ key → table.find? other = (store.table kind).find? other) :
    (store.withTable kind table).find? = Contents.set store.find? kind key entry := by
  -- Tables of different kinds have different types, so the kinds are compared before the keys.
  funext other otherKey
  by_cases sameKind : other = kind
  · subst sameKind
    rw [find?, table_withTable_self, Contents.set_apply]
    split
    · next same => rw [same, here]
    · next different => exact elsewhere otherKey different
  · rw [find?, table_withTable_of_ne store table sameKind, Contents.set_of_kind_ne _ _ _ _ sameKind, find?]

@[simp] theorem find?_remove (store : Tables) (kind : Kind) (key : ObjectKey) :
    (store.remove kind key).find? = Contents.set store.find? kind key none := by
  apply find?_withTable
  · exact Table.find?_remove_self _ key
  · intro other different
    rw [Table.find?_remove, if_neg different]

variable {kind : Kind}

@[simp] theorem find?_save (store : Tables) (object : Object kind) :
    (store.save object).find? =
      Contents.set store.find? kind object.key (some (object.withVersion (some store.freshVersion))) :=
  find?_withTable store kind _ object.key _ (Table.find?_put_self _ (object.withVersion _))
    fun _ different => Table.find?_put_of_ne _ (object.withVersion _) different

@[simp] theorem nextVersion_remove (store : Tables) (kind : Kind) (key : ObjectKey) :
    (store.remove kind key).nextVersion = store.nextVersion :=
  nextVersion_withTable store kind _

@[simp] theorem nextVersion_save (store : Tables) (object : Object kind) :
    (store.save object).nextVersion = store.nextVersion + 1 := rfl

/-! The calls, step by step: what each of them does to the store and to the record that is handed in. -/

section Applied

variable (store : Tables) (object : Object kind)

@[simp] theorem persist_apply (merged : Object kind) :
    persist merged ⟨store, object⟩ = (.ok store.freshVersion, ⟨store.save merged, object⟩) := rfl

@[simp] theorem withdraw_apply : withdraw ⟨store, object⟩ = (.ok (), ⟨store.remove kind object.key, object⟩) := rfl

theorem require_bind_apply (next : Object kind → Procedure Tables kind Unit) :
    (require >>= next) ⟨store, object⟩ =
      match store.find? kind object.key with
      | some stored => next stored ⟨store, object⟩
      | none => (.error (.store (.notFound kind object.key)), ⟨store, object⟩) := by
  simp only [require, Procedure.bind_apply, Procedure.get_apply]
  cases store.find? kind object.key <;> simp

theorem checkVersion_bind_apply (stored : Object kind) (next : Unit → Procedure Tables kind Unit) :
    (checkVersion stored >>= next) ⟨store, object⟩ =
      match WriteRules.matchVersion stored object with
      | .ok () => next () ⟨store, object⟩
      | .error error => (.error (.store error), ⟨store, object⟩) := by
  simp only [checkVersion, Procedure.bind_apply, Procedure.record_apply]
  cases WriteRules.matchVersion stored object <;> rfl

theorem create_apply :
    create ⟨store, object⟩ =
      match store.find? kind object.key with
      | some _ => (.error (.store (.alreadyExists kind object.key)), ⟨store, object⟩)
      | none =>
        (.ok (), ⟨store.save (WriteRules.newborn object), object.withVersion (some store.freshVersion)⟩) := by
  simp only [create, Procedure.bind_apply, Procedure.get_apply]
  cases store.find? kind object.key <;> simp

theorem update_apply :
    update ⟨store, object⟩ =
      match store.find? kind object.key with
      | some stored =>
        match WriteRules.matchVersion stored object with
        | .ok () =>
          if WriteRules.isReleased (WriteRules.revise stored object) then
            (.ok (), ⟨store.remove kind object.key, object.withVersion none⟩)
          else
            (.ok (), ⟨store.save (WriteRules.revise stored object), object.withVersion (some store.freshVersion)⟩)
        | .error error => (.error (.store error), ⟨store, object⟩)
      | none => (.error (.store (.notFound kind object.key)), ⟨store, object⟩) := by
  simp only [update, require_bind_apply, checkVersion_bind_apply]
  cases store.find? kind object.key with
  | none => rfl
  | some stored =>
    dsimp only
    cases WriteRules.matchVersion stored object with
    | error error => rfl
    | ok _ =>
      simp only [Procedure.bind_apply, Procedure.record_apply]
      split <;> simp

theorem updateStatus_apply :
    updateStatus ⟨store, object⟩ =
      match store.find? kind object.key with
      | some stored =>
        match WriteRules.matchVersion stored object with
        | .ok () =>
          (.ok (),
            ⟨store.save (WriteRules.reviseStatus stored object), object.withVersion (some store.freshVersion)⟩)
        | .error error => (.error (.store error), ⟨store, object⟩)
      | none => (.error (.store (.notFound kind object.key)), ⟨store, object⟩) := by
  simp only [updateStatus, require_bind_apply, checkVersion_bind_apply]
  cases store.find? kind object.key with
  | none => rfl
  | some stored => cases WriteRules.matchVersion stored object <;> simp

theorem delete_apply (now : Timestamp) :
    delete now ⟨store, object⟩ =
      match store.find? kind object.key with
      | some stored =>
        if WriteRules.isAwaitingRelease stored then (.ok (), ⟨store, object⟩)
        else
          (.ok (), ⟨((WriteRules.mark? stored now).map store.save).getD (store.remove kind object.key), object⟩)
      | none => (.error (.store (.notFound kind object.key)), ⟨store, object⟩) := by
  simp only [delete, require_bind_apply]
  cases store.find? kind object.key with
  | none => rfl
  | some stored =>
    dsimp only
    split
    · rfl
    · cases WriteRules.mark? stored now <;> rfl

end Applied

/-! What is seen of the calls from outside. -/

section Served

variable (store : Tables) (object : Object kind) (now : Timestamp)

theorem serve_get (kind : Kind) (key : ObjectKey) :
    serve (.get kind key) now store =
      (match store.find? kind key with
        | some object => .ok object
        | none => .error (.store (.notFound kind key)), store) := by
  simp only [serve, Port.service, Port.call, port, read]
  cases store.find? kind key <;> rfl

theorem serve_create :
    serve (.create object) now store =
      match store.find? kind object.key with
      | some _ => (.error (.store (.alreadyExists kind object.key)), store)
      | none => (.ok (some store.freshVersion), store.save (WriteRules.newborn object)) := by
  simp only [serve, Port.service, Port.call, port, create_apply]
  cases store.find? kind object.key <;> rfl

theorem serve_update :
    serve (.update object) now store =
      match store.find? kind object.key with
      | some stored =>
        match WriteRules.matchVersion stored object with
        | .ok () =>
          if WriteRules.isReleased (WriteRules.revise stored object) then (.ok none, store.remove kind object.key)
          else (.ok (some store.freshVersion), store.save (WriteRules.revise stored object))
        | .error error => (.error (.store error), store)
      | none => (.error (.store (.notFound kind object.key)), store) := by
  simp only [serve, Port.service, Port.call, port, update_apply]
  cases store.find? kind object.key with
  | none => rfl
  | some stored =>
    dsimp only
    cases WriteRules.matchVersion stored object with
    | error error => rfl
    | ok _ => cases WriteRules.isReleased (WriteRules.revise stored object) <;> rfl

theorem serve_updateStatus :
    serve (.updateStatus object) now store =
      match store.find? kind object.key with
      | some stored =>
        match WriteRules.matchVersion stored object with
        | .ok () => (.ok (some store.freshVersion), store.save (WriteRules.reviseStatus stored object))
        | .error error => (.error (.store error), store)
      | none => (.error (.store (.notFound kind object.key)), store) := by
  simp only [serve, Port.service, Port.call, port, updateStatus_apply]
  cases store.find? kind object.key with
  | none => rfl
  | some stored =>
    dsimp only
    cases WriteRules.matchVersion stored object <;> rfl

theorem serve_delete :
    serve (.delete object) now store =
      match store.find? kind object.key with
      | some stored =>
        if WriteRules.isAwaitingRelease stored then (.ok (), store)
        else (.ok (), ((WriteRules.mark? stored now).map store.save).getD (store.remove kind object.key))
      | none => (.error (.store (.notFound kind object.key)), store) := by
  simp only [serve, Port.service, Port.call, port, delete_apply]
  cases store.find? kind object.key with
  | none => rfl
  | some stored =>
    dsimp only
    cases WriteRules.isAwaitingRelease stored <;> rfl

end Served

/-- All that a request can do to the store: nothing, take the object out, or write it once. -/
theorem serve_cases (request : StoreRequest) (now : Timestamp) (store : Tables) :
    (serve request now store).2 = store ∨
    (serve request now store).2 = store.remove request.kind request.key ∨
    ∃ object : Object request.kind, object.key = request.key ∧
      (serve request now store).2 = store.save object := by
  cases request with
  | get kind key => exact .inl (by rw [serve_get])
  | @create kind object =>
    rw [serve_create]
    split
    · exact .inl rfl
    · exact .inr (.inr ⟨WriteRules.newborn object, rfl, rfl⟩)
  | @update kind object =>
    rw [serve_update]
    split
    · next stored _ =>
      cases WriteRules.matchVersion stored object with
      | error => exact .inl rfl
      | ok _ =>
        dsimp only
        split
        · exact .inr (.inl rfl)
        · exact .inr (.inr ⟨WriteRules.revise stored object, rfl, rfl⟩)
    · exact .inl rfl
  | @updateStatus kind object =>
    rw [serve_updateStatus]
    split
    · next stored found =>
      cases WriteRules.matchVersion stored object with
      | error => exact .inl rfl
      | ok _ =>
        have own : stored.key = object.key := keyed_find? store kind _ _ found
        exact .inr (.inr ⟨WriteRules.reviseStatus stored object, own, rfl⟩)
    · exact .inl rfl
  | @delete kind object =>
    rw [serve_delete]
    split
    · next stored found =>
      split
      · exact .inl rfl
      · cases marked : WriteRules.mark? stored now with
        | none => exact .inr (.inl rfl)
        | some written =>
          have own := keyed_find? store kind _ _ found
          exact .inr (.inr ⟨written, (WriteRules.key_of_mark? marked).trans own, rfl⟩)
    · exact .inl rfl

/-- The store in memory answers by the shared rules, and gives out its next version. -/
theorem serve_eq (request : StoreRequest) (now : Timestamp) (store : Tables) :
    ((serve request now store).1, Tables.find? (serve request now store).2) =
      Contents.serve store.freshVersion now store.find? request := by
  cases request with
  | get kind key =>
    rw [serve_get]
    simp only [Contents.serve]
    cases found : store.find? kind key with
    | none => rfl
    | some object => simp only [Entry.get, Contents.settle, ← found, Contents.set_current]
  | @create kind object =>
    rw [serve_create]
    simp only [Contents.serve, Entry.create]
    cases store.find? kind object.key with
    | some _ => rfl
    | none => simp [Contents.settle]
  | @update kind object =>
    rw [serve_update]
    simp only [Contents.serve, Entry.update, Entry.overwrite]
    cases store.find? kind object.key with
    | none => rfl
    | some stored =>
      dsimp only
      cases WriteRules.matchVersion stored object with
      | error refused => rfl
      | ok _ =>
        simp only [Except.map]
        split <;> simp [Contents.settle]
  | @updateStatus kind object =>
    rw [serve_updateStatus]
    simp only [Contents.serve, Entry.updateStatus, Entry.overwrite]
    cases found : store.find? kind object.key with
    | none => rfl
    | some stored =>
      have own : stored.key = object.key := keyed_find? store kind _ _ found
      dsimp only
      cases WriteRules.matchVersion stored object with
      | error refused => rfl
      | ok _ => simp [Except.map, Contents.settle, own]
  | @delete kind object =>
    rw [serve_delete]
    simp only [Contents.serve, Entry.delete]
    cases found : store.find? kind object.key with
    | none => rfl
    | some stored =>
      have own := keyed_find? store kind _ _ found
      dsimp only
      split
      · simp only [Contents.settle, ← found, Contents.set_current]
      · cases marked : WriteRules.mark? stored now with
        | none => simp [Contents.settle]
        | some written => simp [Contents.settle, (WriteRules.key_of_mark? marked).trans own]

theorem answer_eq (request : StoreRequest) (now : Timestamp) (store : Tables) :
    (serve request now store).1 = (Contents.serve store.freshVersion now store.find? request).1 :=
  congrArg Prod.fst (serve_eq request now store)

end ClaimOperator.Tables

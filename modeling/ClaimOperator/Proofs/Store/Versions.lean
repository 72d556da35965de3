import ClaimOperator.Proofs.Store.TableContents
import ClaimOperator.Proofs.Text.Decimal

/-! The versions of the store in memory.

Versions are numbers that only grow, and every write takes the next one. So an object
that is found after a request either was there before or has the version that the
request was the first to use.
-/

set_option autoImplicit false

namespace ClaimOperator

namespace Tables

/-- Every stored object has a version that was given out before, and no two have the same. -/
structure Versioned (store : Tables) : Prop where
  numbered : ∀ {kind key} {object : Object kind}, store.find? kind key = some object →
    ∃ number < store.nextVersion, object.metadata.version = some (Text.decimal number)
  apart : ∀ {kind key kind' key'} {object : Object kind} {object' : Object kind'},
    store.find? kind key = some object → store.find? kind' key' = some object' →
    object.metadata.version = object'.metadata.version → kind = kind' ∧ key = key'

theorem versioned_empty : Versioned {} where
  numbered {kind key object} found := by cases kind <;> cases found
  apart {kind key kind' key' object object'} found := by cases kind <;> cases found

theorem Versioned.ne_fresh {store : Tables} (versioned : store.Versioned) {kind : Kind} {key : ObjectKey}
    {object : Object kind} (found : store.find? kind key = some object) :
    object.metadata.version ≠ some store.freshVersion := by
  obtain ⟨number, before, version⟩ := versioned.numbered found
  intro same
  rw [version] at same
  have := Text.decimal_inj (Option.some.inj same)
  omega

theorem find?_serve {request : StoreRequest} {now : Timestamp} {store : Tables} {kind : Kind}
    {key : ObjectKey} {object : Object kind}
    (found : (serve request now store).2.find? kind key = some object) :
    store.find? kind key = some object ∨
      (kind = request.kind ∧ key = request.key ∧ object.metadata.version = some store.freshVersion ∧
        (serve request now store).2.nextVersion = store.nextVersion + 1) := by
  obtain same | removed | ⟨written, own, saved⟩ := serve_cases request now store
  · rw [same] at found; exact .inl found
  · rw [removed, find?_remove] at found
    by_cases here : request.kind = kind ∧ request.key = key
    · obtain ⟨rfl, rfl⟩ := here; simp at found
    · exact .inl (by simpa [Contents.set, here] using found)
  · rw [saved, find?_save, own] at found
    by_cases here : request.kind = kind ∧ request.key = key
    · obtain ⟨rfl, rfl⟩ := here
      rw [Contents.set_self] at found
      cases found
      exact .inr ⟨rfl, rfl, rfl, by rw [saved]; rfl⟩
    · exact .inl (by simpa [Contents.set, here] using found)

theorem nextVersion_le_serve (request : StoreRequest) (now : Timestamp) (store : Tables) :
    store.nextVersion ≤ (serve request now store).2.nextVersion := by
  obtain same | removed | ⟨written, _, saved⟩ := serve_cases request now store
  · exact Nat.le_of_eq (congrArg nextVersion same).symm
  · exact Nat.le_of_eq ((congrArg nextVersion removed).trans (nextVersion_remove store _ _)).symm
  · rw [saved, nextVersion_save]
    omega

theorem Versioned.serve {store : Tables} (versioned : store.Versioned) (request : StoreRequest)
    (now : Timestamp) : (serve request now store).2.Versioned where
  numbered {kind key object} found := by
    obtain before | ⟨_, _, version, next⟩ := find?_serve found
    · obtain ⟨number, given, version⟩ := versioned.numbered before
      exact ⟨number, by have := nextVersion_le_serve request now store; omega, version⟩
    · exact ⟨store.nextVersion, by omega, version⟩
  apart {kind key kind' key' object object'} found found' same := by
    -- Two objects with one version: both were there, or both have just been written, which is one object.
    obtain before | ⟨here, own, version, _⟩ := find?_serve found <;>
      obtain before' | ⟨here', own', version', _⟩ := find?_serve found'
    · exact versioned.apart before before' same
    · exact absurd (same.trans version') (versioned.ne_fresh before)
    · exact absurd (same.symm.trans version) (versioned.ne_fresh before')
    · exact ⟨here.trans here'.symm, own.trans own'.symm⟩

end Tables

end ClaimOperator

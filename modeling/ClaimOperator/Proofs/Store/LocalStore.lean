import ClaimOperator.Proofs.Store.Refusals
import ClaimOperator.Proofs.Store.RowContents
import ClaimOperator.Store.Transaction

/-! What the two local stores have in common.

A local store starts empty, holds contents and answers by the shared rules. Taking
back a unit of work brings back the contents from before it, or leaves them as they are.
-/

set_option autoImplicit false

namespace ClaimOperator

class LocalStore (σ : Type) extends Transactional σ where
  port : Port σ
  tidy : port.Tidy
  empty : σ
  contents : σ → Contents
  /-- Nobody from outside is about to get in between. -/
  Quiet : σ → Prop
  quiet_empty : Quiet empty
  contents_empty : contents empty = Contents.empty
  keyed : ∀ {state}, Quiet state → (contents state).Keyed
  serves : ∀ {state}, Quiet state → ∀ request now, Quiet (port.service request now state).2 ∧ ∃ fresh,
    ((port.service request now state).1, contents (port.service request now state).2) =
      (contents state).serve fresh now request
  opens : ∀ state, opened state = state
  rollsBack : ∀ {before after}, Quiet before → Quiet after → Quiet (rolledBack before after) ∧
    (contents (rolledBack before after) = contents before ∨ contents (rolledBack before after) = contents after)

def LocalStore.serve {σ : Type} [LocalStore σ] : Service σ := LocalStore.port.service

instance : LocalStore Tables where
  port := Tables.port
  tidy := Tables.tidy_port
  empty := {}
  contents := Tables.find?
  Quiet _ := True
  quiet_empty := trivial
  contents_empty := by
    funext kind key
    cases kind <;> rfl
  keyed _ := Tables.keyed_find? _
  serves _ request now := ⟨trivial, _, Tables.serve_eq request now _⟩
  opens _ := rfl
  -- What is written here stays written: there is nothing to take back.
  rollsBack _ _ := ⟨trivial, .inr rfl⟩

instance : LocalStore Rows.Connection where
  port := Rows.Connection.port
  tidy := Rows.Connection.tidy_port
  empty := {}
  contents connection := Rows.contents connection.rows
  Quiet := Rows.Connection.Quiet
  quiet_empty := ⟨rfl, Rows.coherent_nil⟩
  contents_empty := rfl
  keyed {connection} quiet kind key object found := by
    obtain ⟨absent, _⟩ | ⟨stored, _, _, _, here, own, _⟩ := quiet.rows.look kind key
    · cases absent.symm.trans found
    · cases here.symm.trans found
      exact own
  serves quiet request now := by
    obtain ⟨after, same⟩ := quiet.serve request now
    exact ⟨after, _, same⟩
  opens _ := rfl
  rollsBack before after := ⟨⟨after.race, before.rows⟩, .inl rfl⟩

/-- A store whose requests may be made to fail before they reach it: in turn, as the plan says. -/
structure Scheduled (σ : Type) where
  store : σ
  plan : List (Option StoreError)

def Service.scheduled {σ : Type} (serve : Service σ) : Service (Scheduled σ) := fun request now state =>
  match state.plan with
  | some error :: rest => (.error (.store error), ⟨state.store, rest⟩)
  | none :: rest =>
    let (answer, store) := serve request now state.store
    (answer, ⟨store, rest⟩)
  | [] =>
    let (answer, store) := serve request now state.store
    (answer, ⟨store, []⟩)

instance {σ : Type} [Transactional σ] : Transactional (Scheduled σ) where
  opened state := { state with store := Transactional.opened state.store }
  rolledBack before after := { after with store := Transactional.rolledBack before.store after.store }

end ClaimOperator

import ClaimOperator.Proofs.Json.Overlay
import ClaimOperator.Proofs.Store.Orderly
import ClaimOperator.Proofs.Store.RowVersions

/-! Rows that say the same in their columns as in their manifests.

A request is planned on the rows that it reads, and its statement may meet other rows by the time that it is
sent. Whatever was read, the statement writes the row of some object, under a key that it has. So every table
that statements can lead to is faithful, whichever of them were rolled back, and can be read throughout.
-/

set_option autoImplicit false

namespace ClaimOperator

section Outcomes

variable {ε α β : Type} {result : Except ε α}

theorem bind_eq_ok {next : α → Except ε β} {value : β} (bound : result >>= next = .ok value) :
    ∃ found, result = .ok found ∧ next found = .ok value := by
  cases result with
  | error failure => cases bound
  | ok found => exact ⟨found, rfl, bound⟩

theorem map_eq_ok {f : α → β} {value : β} (mapped : result.map f = .ok value) :
    ∃ found, result = .ok found ∧ f found = value := by
  cases result with
  | error failure => cases mapped
  | ok found => exact ⟨found, rfl, Except.ok.inj mapped⟩

end Outcomes

/-- The columns of a row are what its manifest says, and the manifest is that of an object. -/
structure Row.Faithful (row : Row) : Prop where
  kind : row.manifest.at? ["kind"] = some (.string row.kind.text)
  space : row.manifest.at? ["metadata", "namespace"] = some (.string row.key.space)
  name : row.manifest.at? ["metadata", "name"] = some (.string row.key.name)
  positive : 1 ≤ row.version
  version : row.manifest.at? ["metadata", "resourceVersion"] = some (.string (Text.decimal row.version))
  decodes : ∃ object, Manifest.decode row.kind row.manifest = .ok object ∧ Manifest.encode object = row.manifest

namespace Rows

structure Faithful (rows : Rows) : Prop where
  each : ∀ row ∈ rows, row.Faithful
  apart : (rows.map title).Nodup

section Writing

variable {kind : Kind} {rows : Rows}

theorem faithful_rowOf (object : Object kind) {version : Nat} (positive : 1 ≤ version) :
    (rowOf object version).Faithful where
  kind := rfl
  space := rfl
  name := rfl
  positive := positive
  version := by
    obtain ⟨⟨key, finalizers, deletionTime, _⟩, spec, status⟩ := object
    cases deletionTime <;> rfl
  decodes := ⟨_, Manifest.decode_encode _, rfl⟩

theorem Coherent.faithful (coherent : rows.Coherent) : rows.Faithful where
  each row member := by
    obtain ⟨kind, object, version, positive, rfl⟩ := coherent.written row member
    exact faithful_rowOf object positive
  apart := coherent.apart

end Writing

/-! What requests send. -/

section Plans

variable {kind : Kind}

/-- What a request comes to on the rows that it reads: a failure, nothing to write, or a write. -/
def plan (seen : Rows) (now : Timestamp) : StoreRequest → Except Failure (Option (Write (Option String)))
  | .get kind key => (seen.get kind key).map fun _ => none
  | .create object => (seen.planCreate object).map some
  | .update object => (seen.planUpdate object).map some
  | .updateStatus object => (seen.planUpdateStatus object).map some
  | .delete object => seen.planDelete object now

inductive Statement.Written : Statement → Prop where
  | insert {kind : Kind} (object : Object kind) : Written (.insert (rowOf object 1))
  | replace {kind : Kind} (object : Object kind) (version : Nat) : Written (replaceRow object version).statement
  | delete {kind : Kind} (object : Object kind) (version : Nat) : Written (deleteRow object version).statement

theorem written_of_plan {seen : Rows} {now : Timestamp} {request : StoreRequest} {write : Write (Option String)}
    (planned : seen.plan now request = .ok (some write)) : write.statement.Written := by
  cases request with
  | get kind key =>
    obtain ⟨_, _, nothing⟩ := map_eq_ok planned
    cases nothing
  | create object =>
    obtain ⟨_, planned, same⟩ := map_eq_ok planned
    cases same
    unfold planCreate at planned
    split at planned
    · cases planned
    · cases planned
      exact .insert (WriteRules.newborn object)
  | update object =>
    obtain ⟨_, planned, same⟩ := map_eq_ok planned
    cases same
    obtain ⟨⟨stored, version⟩, _, planned⟩ := bind_eq_ok planned
    obtain ⟨_, _, planned⟩ := bind_eq_ok planned
    dsimp only at planned
    split at planned
    · cases planned
      exact .delete _ version
    · cases planned
      exact .replace _ version
  | updateStatus object =>
    obtain ⟨_, planned, same⟩ := map_eq_ok planned
    cases same
    obtain ⟨⟨stored, version⟩, _, planned⟩ := bind_eq_ok planned
    obtain ⟨_, _, planned⟩ := bind_eq_ok planned
    cases planned
    exact .replace _ version
  | delete object =>
    obtain ⟨⟨stored, version⟩, _, planned⟩ := bind_eq_ok planned
    dsimp only at planned
    split at planned
    · cases planned
    · split at planned
      · cases planned
        exact .delete _ version
      · cases planned
        exact .replace _ version

def carryOut (rows : Rows) : Except Failure (Option (Write (Option String))) → Rows
  | .ok (some write) => (write.statement.execute rows).2
  | _ => rows

variable {connection : Connection}

theorem rows_perform (alone : connection.race = none) (plan : Except Failure (Write (Option String))) :
    (connection.perform plan).2.rows = connection.rows.carryOut (plan.map some) := by
  cases plan with
  | error failure => rfl
  | ok write =>
    simp only [Connection.perform, Connection.send, Connection.meet, alone]
    split <;> rfl

/-- Without another writer, a request carries out its plan on the rows that it read. -/
theorem rows_serve (alone : connection.race = none) (request : StoreRequest) (now : Timestamp) :
    (Connection.serve request now connection).2.rows = connection.rows.carryOut (connection.rows.plan now request) := by
  cases request with
  | get kind key =>
    simp only [Connection.serve_get, plan]
    cases connection.rows.get kind key <;> rfl
  | create object =>
    rw [Connection.serve_create]
    exact rows_perform alone _
  | update object =>
    rw [Connection.serve_update]
    exact rows_perform alone _
  | updateStatus object =>
    rw [Connection.serve_updateStatus]
    exact rows_perform alone _
  | delete object =>
    simp only [Connection.serve_delete, plan]
    cases connection.rows.planDelete object now with
    | error failure => rfl
    | ok planned =>
      cases planned with
      | none => rfl
      | some write => exact rows_perform alone (.ok write)

end Plans

/-! Tables that requests lead to. -/

/-- Tables that requests can lead to, whatever was read for each of them, and whatever was taken back meanwhile. -/
inductive Reachable : Rows → Prop where
  | empty : Reachable []
  | sent {seen rows : Rows} {request : StoreRequest} {now : Timestamp} {write : Write (Option String)} :
      Reachable seen → Reachable rows → seen.plan now request = .ok (some write) →
      Reachable (write.statement.execute rows).2

section Tables

variable {rows : Rows}

theorem titled_of_written {statement : Statement} (written : statement.Written) : statement.Titled := by
  cases written <;> trivial

theorem Coherent.execute (coherent : rows.Coherent) {statement : Statement} (written : statement.Written) :
    Coherent (statement.execute rows).2 where
  written row member := by
    cases written with
    | insert object =>
      simp only [Statement.execute] at member
      split at member
      · exact coherent.written row member
      · obtain old | new := List.mem_append.mp member
        · exact coherent.written row old
        · exact ⟨_, object, 1, Nat.le_refl 1, List.mem_singleton.mp new⟩
    | replace object version =>
      obtain ⟨current, there, rfl⟩ := List.mem_map.mp member
      split
      · exact ⟨_, object, version + 1, Nat.le_add_left 1 version, rfl⟩
      · exact coherent.written current there
    | delete object version => exact coherent.written row (List.mem_filter.mp member).1
  apart := Statement.apart_execute (titled_of_written written) coherent.apart

theorem Reachable.coherent (reachable : Reachable rows) : rows.Coherent := by
  induction reachable with
  | empty => exact coherent_nil
  | sent _ _ planned _ ih => exact ih.execute (written_of_plan planned)

theorem Reachable.serve {connection : Connection} (alone : connection.race = none)
    (reachable : Reachable connection.rows) (request : StoreRequest) (now : Timestamp) :
    Reachable (Connection.serve request now connection).2.rows := by
  rw [rows_serve alone]
  cases planned : connection.rows.plan now request with
  | error _ => exact reachable
  | ok written =>
    cases written with
    | none => exact reachable
    | some write => exact .sent reachable reachable planned

/-- All that the rows say is the same in columns and manifests, and whatever is asked, they are never what a request
fails on, even with another writer in between. -/
structure Sound (rows : Rows) : Prop where
  faithful : rows.Faithful
  serves : ∀ (race : Option Race) (request : StoreRequest) (now : Timestamp),
    Orderly (fun _ => True) (Connection.serve request now ⟨rows, race⟩).1

theorem Reachable.sound (reachable : Reachable rows) : rows.Sound where
  faithful := reachable.coherent.faithful
  serves _ request now := (Connection.orderly_serve reachable.coherent.readable request now).1

end Tables

end Rows

end ClaimOperator

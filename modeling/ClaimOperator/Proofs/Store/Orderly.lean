import ClaimOperator.Proofs.Store.RowContents
import ClaimOperator.Proofs.Store.TableContents

/-! Stores that fail with store errors only.

The tables never fail otherwise. Rows do as long as they can all be read back, and
whatever is written to them, by a request or by another writer who gets in between, can be.
-/

set_option autoImplicit false

namespace ClaimOperator

def Orderly {α : Type} (wanted : α → Prop) : Except Failure α → Prop
  | .ok value => wanted value
  | .error failure => ∃ error, failure = .store error

namespace Orderly

variable {α β : Type} {wanted : α → Prop}

@[simp] theorem ok_iff (value : α) : Orderly wanted (.ok value) ↔ wanted value := Iff.rfl

@[simp] theorem store (error : StoreError) : Orderly wanted (.error (.store error)) := ⟨error, rfl⟩

theorem bind {next : α → Except Failure β} {later : β → Prop} {result : Except Failure α}
    (orderly : Orderly wanted result) (follows : ∀ value, wanted value → Orderly later (next value)) :
    Orderly later (result >>= next) := by
  cases result with
  | ok value => exact follows value orderly
  | error failure => exact orderly

theorem map {f : α → β} {later : β → Prop} {result : Except Failure α} (orderly : Orderly wanted result)
    (follows : ∀ value, wanted value → later (f value)) : Orderly later (result.map f) := by
  cases result with
  | ok value => exact follows value orderly
  | error failure => exact orderly

theorem mapError (result : Except StoreError α) : Orderly (fun _ => True) (result.mapError .store) := by
  cases result with
  | ok value => trivial
  | error error => exact .store error

end Orderly

theorem Contents.orderly_settle {kind : Kind} {α : Type} (contents : Contents) (key : ObjectKey)
    (outcome : Except StoreError (α × Entry kind)) : Orderly (fun _ => True) (contents.settle key outcome).1 := by
  cases outcome with
  | ok _ => trivial
  | error error => exact .store error

theorem Tables.orderly_serve (request : StoreRequest) (now : Timestamp) (store : Tables) :
    Orderly (fun _ => True) (serve request now store).1 := by
  rw [answer_eq]
  cases request <;> exact Contents.orderly_settle _ _ _

namespace Rows

def IsReadable (row : Row) : Prop := ∃ object, Manifest.decode row.kind row.manifest = .ok object

def Readable (rows : Rows) : Prop := ∀ row ∈ rows, IsReadable row

variable {kind : Kind} {rows : Rows}

theorem isReadable_rowOf (object : Object kind) (version : Nat) : IsReadable (rowOf object version) :=
  ⟨_, Manifest.decode_encode _⟩

theorem Coherent.readable (coherent : rows.Coherent) : rows.Readable := by
  intro row member
  obtain ⟨kind, object, version, -, rfl⟩ := coherent.written row member
  exact isReadable_rowOf object version

def Statement.Readable : Statement → Prop
  | .insert row | .update _ _ _ row => IsReadable row
  | .delete .. => True

namespace Readable

theorem append {row : Row} (readable : rows.Readable) (last : IsReadable row) : (Readable (rows ++ [row])) := by
  intro other member
  rw [List.mem_append, List.mem_singleton] at member
  obtain member | rfl := member
  · exact readable other member
  · exact last

theorem execute (readable : rows.Readable) {statement : Statement} (writes : statement.Readable) :
    Readable (statement.execute rows).2 := by
  cases statement with
  | insert row =>
    simp only [Statement.execute]
    split
    · exact readable
    · exact readable.append writes
  | update kind key version row =>
    intro other member
    obtain ⟨current, there, rfl⟩ := List.mem_map.mp member
    split
    · exact writes
    · exact readable current there
  | delete kind key version => exact fun row member => readable row (List.mem_filter.mp member).1

theorem act (readable : rows.Readable) (interference : Interference) {statement : Statement}
    (writes : statement.Readable) : Readable (interference.act statement rows) := by
  cases interference with
  | bump =>
    intro row member
    obtain ⟨current, there, rfl⟩ := List.mem_map.mp member
    exact readable current there
  | removeAll => exact nofun
  | insertSame =>
    cases statement with
    | insert row => exact readable.execute writes
    | _ => exact readable

theorem send {connection : Connection} (readable : connection.rows.Readable) {statement : Statement}
    (writes : statement.Readable) : (connection.send statement).2.rows.Readable := by
  refine execute ?_ writes
  unfold Connection.meet
  split
  · split
    · exact readable.act _ writes
    · exact readable
  · exact readable

end Readable

theorem orderly_get (readable : rows.Readable) (kind : Kind) (key : ObjectKey) :
    Orderly (fun _ => True) (rows.get kind key) := by
  unfold get
  cases found : rows.find? kind key with
  | none => exact .store _
  | some row =>
    have here : row.kind = kind := congrArg Prod.fst ((isAt_iff kind key row).mp (List.find?_some found))
    obtain ⟨object, read⟩ := readable row (List.mem_of_find?_eq_some found)
    subst here
    simp [load, read, Except.map]

theorem orderly_checkedVersion (stored incoming : Object kind) :
    Orderly (fun _ => True) (checkedVersion stored incoming) := .mapError _

theorem orderly_planCreate (rows : Rows) (object : Object kind) :
    Orderly (·.statement.Readable) (rows.planCreate object) := by
  unfold planCreate
  split
  · exact .store _
  · exact isReadable_rowOf _ _

theorem orderly_planUpdate (readable : rows.Readable) (object : Object kind) :
    Orderly (·.statement.Readable) (rows.planUpdate object) := by
  refine (orderly_get readable kind object.key).bind fun ⟨stored, version⟩ _ => ?_
  refine (orderly_checkedVersion stored object).bind fun _ _ => ?_
  dsimp only
  split
  · trivial
  · exact isReadable_rowOf _ _

theorem orderly_planUpdateStatus (readable : rows.Readable) (object : Object kind) :
    Orderly (·.statement.Readable) (rows.planUpdateStatus object) := by
  refine (orderly_get readable kind object.key).bind fun ⟨stored, version⟩ _ => ?_
  exact (orderly_checkedVersion stored object).bind fun _ _ => isReadable_rowOf _ _

theorem orderly_planDelete (readable : rows.Readable) (object : Object kind) (now : Timestamp) :
    Orderly (fun plan => ∀ write, plan = some write → write.statement.Readable) (rows.planDelete object now) := by
  refine (orderly_get readable kind object.key).bind fun ⟨stored, version⟩ _ => ?_
  dsimp only
  split
  · rintro write ⟨⟩
  · split
    all_goals
      rintro write ⟨⟩
    · trivial
    · exact isReadable_rowOf _ _

namespace Connection

variable {α : Type} {connection : Connection}

theorem orderly_perform (readable : connection.rows.Readable) {plan : Except Failure (Write α)}
    (orderly : Orderly (·.statement.Readable) plan) :
    Orderly (fun _ => True) (connection.perform plan).1 ∧ (connection.perform plan).2.rows.Readable := by
  cases plan with
  | error failure => exact ⟨orderly, readable⟩
  | ok write =>
    simp only [perform]
    have later := readable.send orderly
    split
    · exact ⟨trivial, later⟩
    · exact ⟨.store _, later⟩

theorem orderly_performDelete (readable : connection.rows.Readable)
    {plan : Except Failure (Option (Write (Option String)))}
    (orderly : Orderly (fun plan => ∀ write, plan = some write → write.statement.Readable) plan) :
    Orderly (fun _ => True) (connection.performDelete plan).1 ∧ (connection.performDelete plan).2.rows.Readable := by
  match plan with
  | .error failure => exact ⟨orderly, readable⟩
  | .ok none => exact ⟨trivial, readable⟩
  | .ok (some write) =>
    have writes : Orderly (·.statement.Readable) (.ok write) := orderly write rfl
    obtain ⟨answered, later⟩ := orderly_perform readable writes
    exact ⟨answered.map fun _ _ => trivial, later⟩

/-- Whatever is asked, and whoever gets in between, readable rows fail with store errors only and stay readable. -/
theorem orderly_serve (readable : connection.rows.Readable) (request : StoreRequest) (now : Timestamp) :
    Orderly (fun _ => True) (serve request now connection).1 ∧ (serve request now connection).2.rows.Readable := by
  cases request with
  | get kind key => exact ⟨(orderly_get readable kind key).map fun _ _ => trivial, readable⟩
  | create object =>
    rw [serve_create]
    exact orderly_perform readable (orderly_planCreate _ object)
  | update object =>
    rw [serve_update]
    exact orderly_perform readable (orderly_planUpdate readable object)
  | updateStatus object =>
    rw [serve_updateStatus]
    exact orderly_perform readable (orderly_planUpdateStatus readable object)
  | delete object => exact orderly_performDelete readable (orderly_planDelete readable object now)

end Connection

end Rows

end ClaimOperator

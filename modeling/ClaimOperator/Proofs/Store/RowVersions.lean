import ClaimOperator.Proofs.Store.RowContents
import ClaimOperator.Store.Transaction

/-! The versions of the table of rows, and what a refused request leaves behind.

A row counts its writes, so what is found under a key has the version before the one that
its next write is given. A request that is refused has hit no row and changes none;
whether it is rolled back makes no difference.
-/

set_option autoImplicit false

namespace ClaimOperator

/-- A request whose failures leave nothing to take back may as well be asked in a unit of work of its own. -/
theorem Service.writeThrough_of_kept {σ : Type} [Transactional σ] {serve : Service σ} {request : StoreRequest}
    {now : Timestamp} {before : σ}
    (kept : ∀ failure, (serve request now before).1 = .error failure →
      Transactional.rolledBack before (serve request now before).2 = (serve request now before).2) :
    serve.writeThrough request now before = serve request now before := by
  unfold writeThrough
  generalize serve request now before = served at kept
  obtain ⟨answer, after⟩ := served
  cases answer with
  | ok _ => rfl
  | error failure => exact congrArg (Prod.mk _) (kept failure rfl)

namespace Rows

variable {kind : Kind}

theorem numbered {rows : Rows} {key : ObjectKey} {stored : Object kind} (found : contents rows kind key = some stored) :
    ∃ number, rows.nextVersion kind key = number + 1 ∧ stored.metadata.version = some (Text.decimal number) := by
  unfold contents at found
  cases look : rows.find? kind key with
  | none => simp [look] at found
  | some row =>
    refine ⟨row.version, by simp [nextVersion, look], ?_⟩
    simp only [look, Option.bind_some, load] at found
    split at found
    · cases found
      rfl
    · cases found

namespace Statement

theorem execute_of_miss {statement : Statement} {rows : Rows} (missed : (statement.execute rows).1 = 0) :
    (statement.execute rows).2 = rows := by
  cases statement with
  | insert row =>
    simp only [execute] at missed ⊢
    split at missed
    · rfl
    · cases missed
  | update kind key version row =>
    have outside := List.countP_eq_zero.mp missed
    exact (List.map_congr_left fun other member => if_neg (outside other member)).trans (List.map_id rows)
  | delete kind key version =>
    have outside := List.countP_eq_zero.mp missed
    exact List.filter_eq_self.mpr fun other member => by simp [outside other member]

def Titled : Statement → Prop
  | .update kind key _ row => title row = (kind, key)
  | .insert _ | .delete .. => True

theorem apart_execute {statement : Statement} {rows : Rows} (titled : statement.Titled)
    (apart : (rows.map title).Nodup) : ((statement.execute rows).2.map title).Nodup := by
  cases statement with
  | insert row =>
    cases found : rows.find? row.kind row.key with
    | some other => simpa only [execute, found] using apart
    | none =>
      have fresh : title row ∉ rows.map title := by
        intro member
        obtain ⟨other, there, same⟩ := List.mem_map.mp member
        apply List.find?_eq_none.mp found other there
        exact (isAt_iff row.kind row.key other).mpr same
      simp only [execute, found, List.map_append, List.map_cons, List.map_nil]
      exact List.nodup_append_comm.mp (List.nodup_cons.mpr ⟨fresh, apart⟩)
  | update kind key version row =>
    have titles : ∀ other : Row, title (if isVersion kind key version other then row else other) = title other := by
      intro other
      by_cases here : isVersion kind key version other = true
      · rw [if_pos here]
        exact titled.trans ((isAt_iff kind key other).mp (Bool.and_eq_true_iff.mp here).1).symm
      · rw [if_neg here]
    simp only [execute, List.map_map, Function.comp_def, titles]
    exact apart
  | delete kind key version => exact apart.sublist (List.filter_sublist.map title)

end Statement

theorem countP_le_one {rows : Rows} (apart : (rows.map title).Nodup) (kind : Kind) (key : ObjectKey)
    (version : Nat) : rows.countP (isVersion kind key version) ≤ 1 := by
  have narrower : rows.countP (isVersion kind key version) ≤ rows.countP (isAt kind key) :=
    List.countP_mono_left fun row _ here => (Bool.and_eq_true_iff.mp here).1
  have titles : rows.countP (isAt kind key) = (rows.map title).count (kind, key) := by
    rw [List.count, List.countP_map]
    refine List.countP_congr fun row _ => ?_
    rw [isAt_iff, Function.comp_apply, beq_iff_eq]
  have once := List.nodup_iff_count_le_one.mp apart (kind, key)
  omega

theorem hits_le_one {rows : Rows} (apart : (rows.map title).Nodup) (statement : Statement) :
    (statement.execute rows).1 ≤ 1 := by
  cases statement with
  | insert row =>
    simp only [Statement.execute]
    split <;> simp
  | update kind key version row => exact countP_le_one apart kind key version
  | delete kind key version => exact countP_le_one apart kind key version

namespace Connection

variable {connection : Connection} {failure : Failure}

theorem Sole.perform_of_refused {α : Type} (sole : connection.Sole) {plan : Except Failure (Write α)}
    (refused : (connection.perform plan).1 = .error failure) : (connection.perform plan).2 = connection := by
  cases plan with
  | error _ => rfl
  | ok write =>
    simp only [perform, sole.send] at refused ⊢
    have bound := hits_le_one sole.apart write.statement
    by_cases hit : (write.statement.execute connection.rows).1 = 1
    · simp [hit] at refused
    · have missed : (write.statement.execute connection.rows).1 = 0 := by omega
      rw [if_neg hit, Statement.execute_of_miss missed]

theorem Sole.performDelete_of_refused (sole : connection.Sole)
    {plan : Except Failure (Option (Write (Option String)))}
    (refused : (connection.performDelete plan).1 = .error failure) :
    (connection.performDelete plan).2 = connection := by
  match plan with
  | .error _ => rfl
  | .ok none => rfl
  | .ok (some write) =>
    cases performed : (connection.perform (.ok write)).1 with
    | error _ => exact sole.perform_of_refused performed
    | ok _ => simp [performDelete, performed, Except.map] at refused

theorem Sole.serve_of_refused (sole : connection.Sole) {request : StoreRequest} {now : Timestamp}
    (refused : (Connection.serve request now connection).1 = .error failure) :
    (Connection.serve request now connection).2 = connection := by
  cases request with
  | get kind key => rfl
  | create object =>
    rw [serve_create] at refused ⊢
    exact sole.perform_of_refused refused
  | update object =>
    rw [serve_update] at refused ⊢
    exact sole.perform_of_refused refused
  | updateStatus object =>
    rw [serve_updateStatus] at refused ⊢
    exact sole.perform_of_refused refused
  | delete object => exact sole.performDelete_of_refused refused

theorem Sole.writeThrough (sole : connection.Sole) (request : StoreRequest) (now : Timestamp) :
    Service.writeThrough Connection.serve request now connection = Connection.serve request now connection := by
  refine Service.writeThrough_of_kept fun failure refused => ?_
  rw [sole.serve_of_refused refused]
  rfl

end Connection

end Rows

end ClaimOperator

import ClaimOperator.Proofs.Store.FaithfulRows
import ClaimOperator.Scope

/-! Tables under units of work that are entered, committed, rolled back and left in any order.

All tables of all engines, those that were committed and those that are seen before a commit, are ones that
requests can lead to. A rollback brings back such a table, a disposal an empty one.
-/

set_option autoImplicit false

namespace ClaimOperator

/-- All that is done with engines and scopes. The scope is any at all, whichever calls have returned it. -/
inductive ScopeCall where
  | start (name : Option String) (force : Bool)
  | startLocal
  | stop
  | enter (scope : Scope)
  | commit (scope : Scope)
  | rollback (scope : Scope)
  | exit (scope : Scope)
  | ask (scope : Scope) (request : StoreRequest) (now : Timestamp)

structure Engine.Tracked (engine : Engine) : Prop where
  current : Rows.Reachable engine.current
  committed : Rows.Reachable engine.committed

namespace Engine

variable {engine : Engine}

theorem tracked_new (name : Option String) (generation : Nat) : Tracked { name := name, generation := generation } :=
  ⟨.empty, .empty⟩

theorem Tracked.createTables (tracked : engine.Tracked) : engine.createTables.Tracked :=
  ⟨tracked.current, tracked.current⟩

theorem Tracked.commit (tracked : engine.Tracked) : engine.commit.Tracked := ⟨tracked.current, tracked.current⟩

theorem Tracked.rollback (tracked : engine.Tracked) : engine.rollback.Tracked := ⟨tracked.committed, tracked.committed⟩

end Engine

namespace Registry

def follow (registry : Registry) : ScopeCall → Registry
  | .start name force => (registry.start name force).toOption.getD registry
  | .startLocal => registry.startLocal
  | .stop => registry.stop
  | .enter scope => ((scope.enter registry).toOption.map (·.2)).getD registry
  | .commit scope => ((scope.commit registry).toOption.map (·.2)).getD registry
  | .rollback scope => ((scope.rollback registry).toOption.map (·.2)).getD registry
  | .exit scope => ((scope.exit registry).toOption.map (·.2)).getD registry
  | .ask scope request now => (scope.ask registry request now).2.2

def after (calls : List ScopeCall) : Registry := calls.foldl follow {}

def Tracked (registry : Registry) : Prop := ∀ engine ∈ registry.engines, engine.Tracked

namespace Tracked

variable {registry : Registry}

theorem engine (tracked : registry.Tracked) (number : Nat) : (registry.engine number).Tracked := by
  unfold Registry.engine
  rw [List.getD_eq_getElem?_getD]
  cases found : registry.engines[number]? with
  | none => exact Engine.tracked_new none 0
  | some engine => exact tracked engine (List.mem_of_getElem? found)

theorem changeEngine (tracked : registry.Tracked) (number : Nat) {change : Engine → Engine}
    (keeps : ∀ engine : Engine, engine.Tracked → (change engine).Tracked) :
    (registry.changeEngine number change).Tracked := by
  intro engine member
  obtain ⟨place, found⟩ := List.mem_iff_getElem?.mp member
  simp only [Registry.changeEngine, List.getElem?_modify, Option.map_eq_map, Option.map_eq_some_iff] at found
  obtain ⟨before, there, rfl⟩ := found
  have tracks := tracked before (List.mem_of_getElem? there)
  split
  · exact keeps before tracks
  · exact tracks

theorem withEngine (tracked : registry.Tracked) (name : Option String) : (registry.withEngine name).2.Tracked := by
  unfold Registry.withEngine
  split
  · exact tracked
  · intro engine member
    obtain old | new := List.mem_append.mp member
    · exact tracked engine old
    · rw [List.mem_singleton.mp new]
      exact Engine.tracked_new name 0

theorem start (tracked : registry.Tracked) {name : Option String} {force : Bool} {started : Registry}
    (outcome : registry.start name force = .ok started) : started.Tracked := by
  unfold Registry.start at outcome
  split at outcome
  · cases outcome
  · cases outcome
    exact (tracked.withEngine name).changeEngine _ fun _ => Engine.Tracked.createTables

theorem stop (tracked : registry.Tracked) : registry.stop.Tracked := by
  unfold Registry.stop
  split
  · exact tracked.changeEngine _ fun engine _ => Engine.tracked_new engine.name (engine.generation + 1)
  · exact tracked

end Tracked

end Registry

namespace Scope

variable {registry : Registry} {scope : Scope} {change : Engine → Engine}

theorem tracked_endTransaction (tracked : registry.Tracked) {number : Nat} {session : OpenSession} {ended : Registry}
    (keeps : ∀ engine : Engine, engine.Tracked → (change engine).Tracked)
    (outcome : endTransaction registry number session change = .ok ended) : ended.Tracked := by
  unfold endTransaction at outcome
  split at outcome
  · cases outcome
    exact tracked
  · split at outcome
    · cases outcome
      exact tracked.changeEngine number keeps
    · cases outcome

theorem tracked_finish (tracked : registry.Tracked) {later : Scope} {ended : Registry}
    (keeps : ∀ engine : Engine, engine.Tracked → (change engine).Tracked)
    (outcome : scope.finish registry change = .ok (later, ended)) : ended.Tracked := by
  cases scope with
  | cluster _ =>
    cases outcome
    exact tracked
  | database number session =>
    cases session with
    | none => cases outcome
    | some session =>
      obtain ⟨_, done, same⟩ := map_eq_ok outcome
      cases same
      exact tracked_endTransaction tracked keeps done

theorem tracked_exit (tracked : registry.Tracked) {later : Scope} {ended : Registry}
    (outcome : scope.exit registry = .ok (later, ended)) : ended.Tracked := by
  cases scope with
  | cluster client =>
    cases client <;> cases outcome <;> exact tracked
  | database number session =>
    cases session with
    | none => cases outcome
    | some session =>
      obtain ⟨_, done, same⟩ := map_eq_ok outcome
      cases same
      exact tracked_endTransaction tracked (fun _ => Engine.Tracked.rollback) done

theorem tracked_enter (tracked : registry.Tracked) {later : Scope} {opened : Registry}
    (outcome : scope.enter registry = .ok (later, opened)) : opened.Tracked := by
  cases scope with
  | cluster _ =>
    cases outcome
    exact tracked
  | database _ session =>
    cases session with
    | none =>
      cases outcome
      exact tracked
    | some _ => cases outcome

/-- What an open database scope answers, and what it leaves, is what its connection does; or else it is refused. -/
theorem askDatabase_cases (registry : Registry) (number : Nat) (session : OpenSession) (request : StoreRequest)
    (now : Timestamp) :
    ((∀ failure, (askDatabase registry number session request now).1 ≠ .error (.failed failure)) ∧
      (askDatabase registry number session request now).2.2 = registry) ∨
    let served := Rows.Connection.serve request now { rows := (registry.engine number).current }
    (askDatabase registry number session request now).1 = served.1.mapError .failed ∧
      (askDatabase registry number session request now).2.2 =
        registry.changeEngine number fun engine => { engine with current := served.2.rows } := by
  unfold askDatabase
  dsimp only
  split
  · exact .inl ⟨by simp, rfl⟩
  · split
    · exact .inl ⟨by simp, rfl⟩
    · exact .inr ⟨rfl, rfl⟩

theorem tracked_askDatabase (tracked : registry.Tracked) (number : Nat) (session : OpenSession)
    (request : StoreRequest) (now : Timestamp) : (askDatabase registry number session request now).2.2.Tracked := by
  obtain ⟨-, same⟩ | ⟨-, changed⟩ := askDatabase_cases registry number session request now
  · rwa [same]
  · rw [changed]
    have alone : ({ rows := (registry.engine number).current } : Rows.Connection).race = none := rfl
    have reached := Rows.Reachable.serve alone (tracked.engine number).current request now
    exact tracked.changeEngine number fun engine tracks => ⟨reached, tracks.committed⟩

theorem tracked_ask (tracked : registry.Tracked) (request : StoreRequest) (now : Timestamp) (scope : Scope) :
    (scope.ask registry request now).2.2.Tracked := by
  cases scope with
  | cluster client => cases client <;> exact tracked
  | database number session =>
    cases session with
    | none => exact tracked
    | some session => exact tracked_askDatabase tracked number session request now

end Scope

namespace Registry

variable {registry : Registry}

theorem Tracked.moved (tracked : registry.Tracked) {outcome : Except ScopeError (Scope × Registry)}
    (keeps : ∀ scope later, outcome = .ok (scope, later) → later.Tracked) :
    Tracked ((outcome.toOption.map (·.2)).getD registry) := by
  cases outcome with
  | error _ => exact tracked
  | ok moved => exact keeps moved.1 moved.2 rfl

theorem Tracked.started (tracked : registry.Tracked) (name : Option String) (force : Bool) :
    Tracked ((registry.start name force).toOption.getD registry) := by
  cases outcome : registry.start name force with
  | error _ => exact tracked
  | ok started => exact tracked.start outcome

theorem Tracked.startLocal (tracked : registry.Tracked) : registry.startLocal.Tracked := by
  unfold Registry.startLocal
  split
  · rename_i started outcome
    exact tracked.start outcome
  · exact tracked

theorem Tracked.follow (tracked : registry.Tracked) (call : ScopeCall) : (registry.follow call).Tracked := by
  cases call with
  | start name force => exact tracked.started name force
  | startLocal => exact tracked.startLocal
  | stop => exact tracked.stop
  | enter scope => exact tracked.moved fun _ _ => Scope.tracked_enter tracked
  | commit scope => exact tracked.moved fun _ _ => Scope.tracked_finish tracked fun _ => Engine.Tracked.commit
  | rollback scope => exact tracked.moved fun _ _ => Scope.tracked_finish tracked fun _ => Engine.Tracked.rollback
  | exit scope => exact tracked.moved fun _ _ => Scope.tracked_exit tracked
  | ask scope request now => exact Scope.tracked_ask tracked request now scope

theorem tracked_after (calls : List ScopeCall) : (after calls).Tracked := by
  suffices following : ∀ registry : Registry, registry.Tracked → (calls.foldl Registry.follow registry).Tracked from
    following {} (by simp [Tracked])
  intro registry tracked
  induction calls generalizing registry with
  | nil => exact tracked
  | cons call rest ih => exact ih _ (tracked.follow call)

end Registry

/-- Tables that requests can lead to are sound, even if each was planned on the rows of another connection; and so are
the tables of every engine, whatever was asked, committed and rolled back, in whatever order. What a request on an
engine fails on is never what a row says. -/
theorem tables_sound :
    (∀ rows, Rows.Reachable rows → rows.Sound) ∧
    ∀ (calls : List ScopeCall) (number : Nat),
      ((Registry.after calls).engine number).current.Sound ∧ ((Registry.after calls).engine number).committed.Sound ∧
      ∀ session request now failure,
        ((Scope.database number session).ask (Registry.after calls) request now).1 = .error (.failed failure) →
        ∃ error, failure = .store error := by
  refine ⟨fun _ reachable => reachable.sound, fun calls number => ?_⟩
  have tracked := (Registry.tracked_after calls).engine number
  refine ⟨tracked.current.sound, tracked.committed.sound, fun session request now failure refused => ?_⟩
  cases session with
  | none => cases refused
  | some session =>
    obtain ⟨fine, -⟩ | ⟨answer, -⟩ :=
      Scope.askDatabase_cases (Registry.after calls) number session request now
    · exact absurd refused (fine failure)
    · have orderly := tracked.current.sound.serves none request now
      rw [Scope.ask, answer] at refused
      cases served : (Rows.Connection.serve request now
          { rows := ((Registry.after calls).engine number).current }).1 with
      | ok _ => rw [served] at refused; cases refused
      | error failed =>
        rw [served] at refused orderly
        cases refused
        exact orderly

def undone : List ScopeCall :=
  let claim : Claim :=
    { metadata := { key := ⟨"customer", "my-claim"⟩, finalizers := ["custodian"] }
      spec := { legalEntity := ⟨"Example Corp", "entity-1"⟩ }
      status := {} }
  [.start none false, .ask (.database 0 (some {})) (.create claim) .epoch, .commit (.database 0 (some ⟨some 0⟩)),
    .ask (.database 0 (some {})) (.delete claim) .epoch]

theorem undone_sound :
    ∃ marked created : Row,
      ((Registry.after undone).engine 0).current = [marked] ∧ marked.version = 2 ∧ marked.Faithful ∧
      ((Registry.after (undone ++ [.rollback (.database 0 (some ⟨some 0⟩))])).engine 0).current = [created] ∧
      created.version = 1 ∧ created.Faithful := by
  have once : (((Registry.after undone).engine 0).current.map (·.version)) = [2] := by decide +kernel
  have back : (((Registry.after (undone ++ [.rollback (.database 0 (some ⟨some 0⟩))])).engine 0).current.map
    (·.version)) = [1] := by decide +kernel
  obtain ⟨marked, first, two⟩ := List.map_eq_singleton_iff.mp once
  obtain ⟨created, second, one⟩ := List.map_eq_singleton_iff.mp back
  obtain ⟨sound, -⟩ := tables_sound.2 undone 0
  obtain ⟨restored, -⟩ := tables_sound.2 (undone ++ [.rollback (.database 0 (some ⟨some 0⟩))]) 0
  rw [first] at sound
  rw [second] at restored
  exact ⟨marked, created, first, two, sound.faithful.each marked List.mem_cons_self, second, one,
    restored.faithful.each created List.mem_cons_self⟩

end ClaimOperator

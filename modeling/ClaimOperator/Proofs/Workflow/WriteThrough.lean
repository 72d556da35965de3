import ClaimOperator.Proofs.Reconcile.Failures
import ClaimOperator.Proofs.Store.FaithfulRows
import ClaimOperator.Proofs.Workflow.Rounds
import ClaimOperator.Proofs.Workflow.Verdicts

/-! One transaction for a pass, and one for each of its requests.

Over committed rows a request that fails leaves nothing to roll back, so a pass sees and leaves
the same rows whether its requests are committed one by one or all together at the end. All
together they are kept once the claim was read, and before that nothing has been written.
-/

set_option autoImplicit false

namespace ClaimOperator

theorem Action.run_congr {σ α : Type} {handle other : Handler σ} (sound : σ → Prop)
    (same : ∀ {state}, sound state → ∀ effect, handle effect state = other effect state)
    (keeps : ∀ {state}, sound state → ∀ effect, sound (handle effect state).2) (action : Action α) {state : σ}
    (before : sound state) : action.run handle state = action.run other state := by
  induction action generalizing state with
  | done value => rfl
  | perform effect next ih =>
    have later := keeps before effect
    rw [same before effect] at later
    simp only [run, same before effect]
    exact ih _ later

namespace Rows

variable {kind : Kind} {rows : Rows}

/-- Rows that a commit may leave: no two have one key, and each can be read back. -/
structure Committed (rows : Rows) : Prop where
  apart : (rows.map title).Nodup
  readable : rows.Readable

theorem Coherent.committed (coherent : rows.Coherent) : rows.Committed where
  apart := coherent.apart
  readable := coherent.readable

def Keeps (plan : Except Failure (Write (Option String))) : Prop := ∀ write, plan = .ok write → write.statement.Titled

theorem keeps_planCreate (rows : Rows) (object : Object kind) : Keeps (rows.planCreate object) := by
  intro write planned
  have planned : rows.plan .epoch (.create object) = .ok (some write) := congrArg (Except.map some) planned
  exact titled_of_written (written_of_plan planned)

theorem keeps_planUpdate (rows : Rows) (object : Object kind) : Keeps (rows.planUpdate object) := by
  intro write planned
  have planned : rows.plan .epoch (.update object) = .ok (some write) := congrArg (Except.map some) planned
  exact titled_of_written (written_of_plan planned)

theorem keeps_planUpdateStatus (rows : Rows) (object : Object kind) : Keeps (rows.planUpdateStatus object) := by
  intro write planned
  have planned : rows.plan .epoch (.updateStatus object) = .ok (some write) := congrArg (Except.map some) planned
  exact titled_of_written (written_of_plan planned)

theorem keeps_planDelete (rows : Rows) (object : Object kind) (now : Timestamp) {write : Write (Option String)}
    (planned : rows.planDelete object now = .ok (some write)) : write.statement.Titled := by
  have planned : rows.plan now (.delete object) = .ok (some write) := planned
  exact titled_of_written (written_of_plan planned)

namespace Connection

variable {connection : Connection}

theorem Sole.perform (sole : connection.Sole) {plan : Except Failure (Write (Option String))} (keeps : Keeps plan) :
    (connection.perform plan).2.Sole := by
  cases plan with
  | error failure => exact sole
  | ok write =>
    have apart := Statement.apart_execute (keeps write rfl) sole.apart
    simp only [Connection.perform, sole.send]
    split
    · exact ⟨sole.race, apart⟩
    · exact ⟨sole.race, apart⟩

theorem Sole.serve (sole : connection.Sole) (request : StoreRequest) (now : Timestamp) :
    (Connection.serve request now connection).2.Sole := by
  cases request with
  | get kind key => exact sole
  | create object =>
    rw [serve_create]
    exact sole.perform (keeps_planCreate _ object)
  | update object =>
    rw [serve_update]
    exact sole.perform (keeps_planUpdate _ object)
  | updateStatus object =>
    rw [serve_updateStatus]
    exact sole.perform (keeps_planUpdateStatus _ object)
  | delete object =>
    simp only [serve_delete]
    cases plan : connection.rows.planDelete object now with
    | error failure => exact sole
    | ok planned =>
      cases planned with
      | none => exact sole
      | some write =>
        have keeps : Keeps (.ok write) := by
          rintro _ ⟨⟩
          exact keeps_planDelete _ object now plan
        exact sole.perform keeps

/-- What a unit of work may find: nobody else is about to write, and the rows are committed ones. -/
structure Sound (connection : Connection) : Prop where
  sole : connection.Sole
  readable : connection.rows.Readable

theorem Sound.serve (sound : connection.Sound) (request : StoreRequest) (now : Timestamp) :
    (Connection.serve request now connection).2.Sound :=
  ⟨sound.sole.serve request now, (orderly_serve sound.readable request now).2⟩

end Connection

theorem Committed.sound (committed : rows.Committed) : Connection.Sound ⟨rows, none⟩ :=
  ⟨⟨rfl, committed.apart⟩, committed.readable⟩

end Rows

section Scheduled

open Rows

variable {state : Scheduled Connection} {now : Timestamp}

/-- A request that fails, in the store or on its way there, leaves nothing to roll back. -/
theorem Service.scheduled_writeThrough (sole : state.store.Sole) (request : StoreRequest) (now : Timestamp) :
    (Service.scheduled Connection.serve).writeThrough request now state =
      Service.scheduled Connection.serve request now state := by
  apply Service.writeThrough_of_kept
  intro failure refused
  obtain ⟨store, plan⟩ := state
  have asked : (Connection.serve request now store).1 = .error failure →
      Transactional.rolledBack store (Connection.serve request now store).2 = (Connection.serve request now store).2 := by
    intro refused
    rw [sole.serve_of_refused refused]
    rfl
  match plan with
  | some error :: rest => rfl
  | none :: rest => exact congrArg (Scheduled.mk · rest) (asked refused)
  | [] => exact congrArg (Scheduled.mk · []) (asked refused)

theorem Service.store_scheduled_get (state : Scheduled Connection) (kind : Kind) (key : ObjectKey) (now : Timestamp) :
    (Service.scheduled Connection.serve (.get kind key) now state).2.store = state.store := by
  obtain ⟨store, plan⟩ := state
  match plan with
  | some error :: rest => rfl
  | none :: rest => rfl
  | [] => rfl

theorem Handler.steady_sound (now : Timestamp) :
    ((Service.scheduled Connection.serve).handler now).Steady fun state => state.store.store.Sound :=
  steady_scheduled Connection.serve Connection.Sound
    (fun _ sound request now => ⟨(Connection.orderly_serve sound.readable request now).1, sound.serve request now⟩) now

end Scheduled

/-- Run an action with every request in a unit of work of its own. -/
def Session.piecewise {σ α : Type} [Transactional σ] (serve : Service σ) (now : Timestamp) (work : Action (Verdict α))
    (session : Session σ) : Except Failure α × Logged σ :=
  let (verdict, after) := work.run (serve.writeThrough.handler now) ⟨session.store, session.log⟩
  (verdict.outcome, after)

section Passes

variable (space : String) (key : ObjectKey) (now : Timestamp) (session : Session (Scheduled Rows.Connection))

def Session.whole : Except Failure (Option PassResult) × Session (Scheduled Rows.Connection) :=
  session.transact (Service.scheduled Rows.Connection.serve) now (Workflow.reconcile space key)

def Session.parts : Except Failure (Option PassResult) × Logged (Scheduled Rows.Connection) :=
  session.piecewise (Service.scheduled Rows.Connection.serve) now (Workflow.reconcile space key)

/-- One transaction for the pass comes to what one for each of its requests comes to, and is committed
once the claim was read. -/
structure Session.WritesThrough : Prop where
  outcome : (session.whole space key now).1 = (session.parts space key now).1
  store : (session.whole space key now).2.store = (session.parts space key now).2.store
  log : (session.whole space key now).2.log = (session.parts space key now).2.log
  commits : ∀ claim, (Service.scheduled Rows.Connection.serve (.get .claim key) now session.store).1 = .ok claim →
    (session.whole space key now).2.commits = session.commits + 1
  abandons : ∀ failure,
    (Service.scheduled Rows.Connection.serve (.get .claim key) now session.store).1 = .error failure →
    (session.whole space key now).2.commits = session.commits

end Passes

section Agreement

open Rows

variable {session : Session (Scheduled Connection)} {space : String} {key : ObjectKey} {now : Timestamp}
  {verdict : Verdict (Option PassResult)} {after : Logged (Scheduled Connection)}

theorem Session.parts_eq (sound : session.store.store.Sound)
    (ran : (Workflow.reconcile space key).run ((Service.scheduled Connection.serve).handler now)
      ⟨session.store, session.log⟩ = (verdict, after)) :
    session.parts space key now = (verdict.outcome, after) := by
  let start : Logged (Scheduled Connection) := ⟨session.store, session.log⟩
  have before : start.store.store.Sound := sound
  have same : (Workflow.reconcile space key).run ((Service.scheduled Connection.serve).handler now) start =
      (Workflow.reconcile space key).run ((Service.scheduled Connection.serve).writeThrough.handler now) start := by
    apply Action.run_congr (fun state => state.store.store.Sound) _ (Handler.steady_sound now).keeps _ before
    intro state sound effect
    cases effect with
    | ask request => simp only [Service.handler, Service.scheduled_writeThrough sound.sole request now]
    | clock => rfl
    | note entry => rfl
  simp only [parts, piecewise, ← same, start, ran]

theorem Session.whole_eq (ran : (Workflow.reconcile space key).run ((Service.scheduled Connection.serve).handler now)
      ⟨session.store, session.log⟩ = (verdict, after))
    (kept : verdict.commits = false → after.store.store = session.store.store) :
    session.whole space key now =
      (verdict.outcome, ⟨after.store, after.log, session.commits + if verdict.commits then 1 else 0⟩) := by
  have opened : Transactional.opened session.store = session.store := rfl
  simp only [whole, transact, opened, ran]
  cases commits : verdict.commits with
  | true => rfl
  | false =>
    have rolledBack : Transactional.rolledBack session.store after.store = after.store := by
      simp only [Transactional.rolledBack, ← kept commits]
    simp only [Bool.false_eq_true, ↓reduceIte, rolledBack, Nat.add_zero]

theorem Session.commits_of_read {claim : Claim} (sound : session.store.store.Sound)
    (read : (Service.scheduled Connection.serve (.get .claim key) now session.store).1 = .ok claim)
    (ran : (Workflow.reconcile space key).run ((Service.scheduled Connection.serve).handler now)
      ⟨session.store, session.log⟩ = (verdict, after)) : verdict.commits = true := by
  let handle : Handler (Logged (Scheduled Connection)) := (Service.scheduled Connection.serve).handler now
  let start : Logged (Scheduled Connection) := ⟨session.store, session.log⟩
  have answered : (handle (.ask (.get .claim key)) start).1 = .ok claim := read
  have before : (handle (.ask (.get .claim key)) start).2.store.store.Sound :=
    (Handler.steady_sound now).keeps (show start.store.store.Sound from sound) (.ask (.get .claim key))
  have ended : verdict = _ := (congrArg Prod.fst ran).symm.trans (Workflow.run_reconcile_of_read answered)
  rw [ended]
  apply Workflow.commits_verdictOf
  intro failure failed
  have clean := (Pass.clean_run (Handler.steady_sound now) (.of claim space) _ before).1
  have outcome : (Pass.run.execute handle (.of claim space) (handle (.ask (.get .claim key)) start).2).outcome =
      .error failure := failed
  rw [outcome] at clean
  exact clean

theorem Session.abandons_of_unread {failure : Failure}
    (unread : (Service.scheduled Connection.serve (.get .claim key) now session.store).1 = .error failure)
    (ran : (Workflow.reconcile space key).run ((Service.scheduled Connection.serve).handler now)
      ⟨session.store, session.log⟩ = (verdict, after)) :
    verdict.commits = false ∧ after.store.store = session.store.store := by
  let handle : Handler (Logged (Scheduled Connection)) := (Service.scheduled Connection.serve).handler now
  let start : Logged (Scheduled Connection) := ⟨session.store, session.log⟩
  have answered : (handle (.ask (.get .claim key)) start).1 = .error failure := unread
  have asked : (Service.scheduled Connection.serve (.get .claim key) now start.store).1 = .error failure := unread
  have ended : verdict = Workflow.verdictUnread failure :=
    (congrArg Prod.fst ran).symm.trans (Workflow.run_reconcile_of_unread answered)
  have left : after.store = (Service.scheduled Connection.serve (.get .claim key) now start.store).2 :=
    (congrArg (fun result => result.2.store) ran).symm.trans (Workflow.store_reconcile_of_unread asked)
  constructor
  · rw [ended]
    exact Workflow.not_commits_verdictUnread failure
  · rw [left]
    exact Service.store_scheduled_get session.store .claim key now

theorem Rows.Connection.Sound.writesThrough (sound : session.store.store.Sound) (space : String) (key : ObjectKey)
    (now : Timestamp) : session.WritesThrough space key now := by
  cases ran : (Workflow.reconcile space key).run ((Service.scheduled Connection.serve).handler now)
      ⟨session.store, session.log⟩ with
  | mk verdict after =>
    have kept : verdict.commits = false → after.store.store = session.store.store := by
      intro abandons
      cases read : (Service.scheduled Connection.serve (.get .claim key) now session.store).1 with
      | ok claim => cases abandons.symm.trans (Session.commits_of_read sound read ran)
      | error failure => exact (Session.abandons_of_unread read ran).2
    have parts := Session.parts_eq sound ran
    have whole := Session.whole_eq ran kept
    constructor
    · rw [whole, parts]
    · rw [whole, parts]
    · rw [whole, parts]
    · intro claim read
      rw [whole, Session.commits_of_read sound read ran]
      rfl
    · intro failure unread
      rw [whole, (Session.abandons_of_unread unread ran).1]
      rfl

end Agreement

/-- Over any committed rows, and whichever of its requests fail, a pass in one transaction writes through. -/
theorem Rows.writesThrough_of_committed {rows : Rows} (committed : rows.Committed) (space : String) (key : ObjectKey)
    (now : Timestamp) (plan : List (Option StoreError)) (log : List Log.Entry) (commits : Nat) :
    Session.WritesThrough space key now ⟨⟨⟨rows, none⟩, plan⟩, log, commits⟩ :=
  Connection.Sound.writesThrough committed.sound space key now

theorem LocalStore.Reached.committed {connection : Rows.Connection} (reached : Reached connection) :
    connection.rows.Committed :=
  reached.quiet.rows.committed

/-- A claim whose conditions are initialised is stored, and the second write of the pass over it is refused. -/
def interrupted : Session (Scheduled Rows.Connection) :=
  let claim : Claim :=
    { metadata := { key := ⟨"customer", "my-claim"⟩ }, spec := { legalEntity := default }
      status := { conditions := some [] } }
  let created : Rows.Connection := (LocalStore.serve (.create claim) .epoch LocalStore.empty).2
  { store := ⟨created, [none, none, some (.injected .conflict "refused")]⟩ }

theorem writesThrough_interrupted :
    interrupted.WritesThrough defaultReferenceSpace ⟨"customer", "my-claim"⟩ .epoch ∧
      (interrupted.whole defaultReferenceSpace ⟨"customer", "my-claim"⟩ .epoch).1 =
        .error (.store (.injected .conflict "refused")) ∧
      (interrupted.whole defaultReferenceSpace ⟨"customer", "my-claim"⟩ .epoch).2.commits = 1 := by
  have reached : LocalStore.Reached interrupted.store.store := .served (.create _) .epoch .empty
  refine ⟨Rows.writesThrough_of_committed reached.committed _ _ _ _ _ _, ?_, ?_⟩
  · decide +kernel
  · decide +kernel

end ClaimOperator

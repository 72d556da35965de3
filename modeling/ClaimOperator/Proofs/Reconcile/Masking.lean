import ClaimOperator.Cluster.Script
import ClaimOperator.Proofs.Cluster.Answers
import ClaimOperator.Proofs.Reconcile.Halts

/-! What leaves a pass whose recorded step failed: the error of the step, or what stopped its record.

A local store fails with store errors only, whoever else writes to it and whatever is
made to fail, so nothing there masks the error of a step. An API server masks it as soon as
its answer to the record cannot be understood.
-/

set_option autoImplicit false

namespace ClaimOperator

variable {σ : Type}

/-- While the state is sound, requests fail with store errors only; and it stays sound. -/
structure Handler.Steady (handle : Handler σ) (sound : σ → Prop) : Prop where
  answers : ∀ {state}, sound state → ∀ request : StoreRequest,
    Orderly (fun _ => True) (handle (.ask request) state).1
  keeps : ∀ {state}, sound state → ∀ effect, sound (handle effect state).2

theorem Action.run_steady {α : Type} {handle : Handler σ} {sound : σ → Prop} (steady : handle.Steady sound)
    (action : Action α) {state : σ} (before : sound state) : sound (action.run handle state).2 := by
  induction action generalizing state with
  | done value => exact before
  | perform effect next ih => exact ih _ (steady.keeps before effect)

namespace Handler

theorem steady_scheduled (serve : Service σ) (sound : σ → Prop)
    (serves : ∀ store, sound store → ∀ request now,
      Orderly (fun _ => True) (serve request now store).1 ∧ sound (serve request now store).2) (now : Timestamp) :
    ((Service.scheduled serve).handler now).Steady fun state => sound state.store.store := by
  have scheduled : ∀ {state : Scheduled σ}, sound state.store → ∀ request,
      Orderly (fun _ => True) (Service.scheduled serve request now state).1 ∧
        sound (Service.scheduled serve request now state).2.store := by
    rintro ⟨store, plan⟩ before request
    match plan with
    | some error :: rest => exact ⟨.store error, before⟩
    | none :: rest => exact serves store before request now
    | [] => exact serves store before request now
  constructor
  · exact fun before request => (scheduled before request).1
  · intro state before effect
    cases effect with
    | ask request => exact (scheduled before request).2
    | clock => exact before
    | note entry => exact before

theorem steady_tables (now : Timestamp) : ((Service.scheduled Tables.serve).handler now).Steady fun _ => True :=
  steady_scheduled Tables.serve (fun _ => True)
    (fun store _ request now => ⟨Tables.orderly_serve request now store, trivial⟩) now

theorem steady_rows (now : Timestamp) :
    ((Service.scheduled Rows.Connection.serve).handler now).Steady fun state => state.store.store.rows.Readable :=
  steady_scheduled Rows.Connection.serve (fun connection => connection.rows.Readable)
    (fun _ => Rows.Connection.orderly_serve) now

end Handler

namespace Pass

open Operation

/-- Whichever recorded step fails with a store error, it is this error that leaves the pass. -/
def Unmasked (handle : Handler σ) (pairing : Pairing) (state : σ) : Prop :=
  pairing.claim.isLeaving = false → ∀ halt, Halts handle stages pairing state halt →
    (run.execute handle pairing state).outcome = .error (.store halt.error)

variable {handle : Handler σ} {pairing : Pairing} {state : σ}

theorem unmasked_iff_orderly :
    Unmasked handle pairing state ↔ (pairing.claim.isLeaving = false → ∀ halt,
      Halts handle stages pairing state halt → Orderly (fun _ => True) (halt.answered handle).1) := by
  refine forall_congr' fun live => forall_congr' fun halt => forall_congr' fun halts => ?_
  rw [halts.execute_run live, Except.error.injEq, Halt.leaving_eq_iff]

theorem Halts.sound {sound : σ → Prop} (steady : handle.Steady sound) {list : List Stage} {halt : Halt σ}
    (halts : Halts handle list pairing state halt) (before : sound state) : sound halt.after := by
  have runs : ∀ (operation : Operation Change) (pairing : Pairing) {state : σ}, sound state →
      sound (operation.execute handle pairing state).state :=
    fun operation pairing _ => Action.run_steady steady (operation.runOn pairing)
  induction halts with
  | @here stage _ pairing _ _ _ _ failed =>
    have later := runs stage.operation pairing before
    rwa [failed] at later
  | @later stage _ pairing _ _ _ _ _ passed _ _ ih =>
    have later := runs stage.operation pairing before
    rw [passed] at later
    exact ih later

theorem unmasked_of_steady {sound : σ → Prop} (steady : handle.Steady sound) (before : sound state) :
    Unmasked handle pairing state := by
  refine unmasked_iff_orderly.mpr fun _ halt halts => ?_
  have warned : sound (halt.warned handle) := steady.keeps (halts.sound steady before) _
  exact steady.answers (steady.keeps warned .clock) (.updateStatus (halt.flagged handle))

theorem outcome_run_cluster (server : Cluster.Server σ) (now : Timestamp) {pairing : Pairing}
    {state : Logged (Cluster.Client σ)} {halt : Halt (Logged (Cluster.Client σ))}
    (live : pairing.claim.isLeaving = false)
    (halts : Halts ((Cluster.Client.serve server).handler now) stages pairing state halt) :
    (run.execute ((Cluster.Client.serve server).handler now) pairing state).outcome = .error (.store halt.error) ↔
      halt.after.store.TakesStatus server (halt.flagged ((Cluster.Client.serve server).handler now)) := by
  rw [halts.execute_run live, Except.error.injEq, Halt.leaving_eq_iff, Halt.answered_handler,
    Cluster.Client.orderly_updateStatus_iff]

/-- The error of a failed step leaves the pass, whatever becomes of its record, on every store that fails with store
errors only: the two local stores do, among other writers, faults and races, as long as every row can be read back. On
an API server it does so exactly if the status with the record on it can be drafted and sent and the answer is a
refusal, a lost connection, or a success that comes with a claim. -/
theorem unmasked_iff_takesStatus (now : Timestamp) {pairing : Pairing} (live : pairing.claim.isLeaving = false) :
    (∀ {σ : Type} {handle : Handler σ} {sound : σ → Prop}, handle.Steady sound →
      ∀ {state : σ}, sound state → Unmasked handle pairing state) ∧
    (∀ state, Unmasked ((Service.scheduled Tables.serve).handler now) pairing state) ∧
    (∀ state : Logged (Scheduled Rows.Connection), state.store.store.rows.Readable →
      Unmasked ((Service.scheduled Rows.Connection.serve).handler now) pairing state) ∧
    ∀ {σ : Type} (server : Cluster.Server σ) {state : Logged (Cluster.Client σ)}
      {halt : Halt (Logged (Cluster.Client σ))},
      Halts ((Cluster.Client.serve server).handler now) stages pairing state halt →
      ((run.execute ((Cluster.Client.serve server).handler now) pairing state).outcome = .error (.store halt.error) ↔
        halt.after.store.TakesStatus server (halt.flagged ((Cluster.Client.serve server).handler now))) :=
  ⟨fun steady _ before => unmasked_of_steady steady before,
    fun _ => unmasked_of_steady (Handler.steady_tables now) trivial,
    fun _ readable => unmasked_of_steady (Handler.steady_rows now) readable,
    fun server _ _ => outcome_run_cluster server now live⟩

/-! A claim that no pass has touched, on a server that refuses the first write. -/

section Garbled

open Cluster

def newClaim : Claim where
  metadata := { key := ⟨"customer", "my-claim"⟩ }
  spec := { legalEntity := ⟨"Example Corp", "entity-1"⟩ }
  status := {}

abbrev scriptHandler : Handler (Logged (Client Script)) := (Client.serve Script.answer).handler .epoch

abbrev tablesHandler : Handler (Logged (Scheduled Tables)) := (Service.scheduled Tables.serve).handler .epoch

def refusing (second : HttpReply) : Logged (Client Script) :=
  ⟨{ server := { queue :=
    [.fixed (.answered 500 (.document (.object [("message", .string "out of order")]))), .fixed second] } }, []⟩

def outOfOrder : StoreError := .rejected .other "PUT" .claim newClaim.key 500 "out of order"

def firstHalt (handle : Handler σ) (state : σ) (error : StoreError) : Halt σ :=
  let failed := Pairing.openConditions.execute handle (.of newClaim "operator") state
  ⟨.conditions, error, failed.pairing, state, failed.state⟩

theorem halts_first {handle : Handler σ} {state : σ} {error : StoreError}
    (refused : (Pairing.openConditions.execute handle (.of newClaim "operator") state).outcome =
      .error (.store error)) :
    Halts handle stages (.of newClaim "operator") state (firstHalt handle state error) :=
  .here (by rw [← refused])

/-- The record is accepted, but with a document that is no claim. -/
theorem not_unmasked_garbled :
    ¬ Unmasked scriptHandler (.of newClaim "operator") (refusing (.answered 200 (.document (.object [])))) := by
  intro unmasked
  have masked : (run.execute scriptHandler (.of newClaim "operator")
      (refusing (.answered 200 (.document (.object []))))).outcome =
      .error (.manifest (.invalid [⟨.missing, [.key "metadata"]⟩, ⟨.missing, [.key "spec"]⟩])) := by
    decide +kernel
  have halts : Halts scriptHandler stages (.of newClaim "operator") _
      (firstHalt scriptHandler (refusing (.answered 200 (.document (.object [])))) outOfOrder) :=
    halts_first (by decide +kernel)
  cases masked.symm.trans (unmasked rfl _ halts)

def troubledTables : Logged (Scheduled Tables) :=
  ⟨⟨{}, [some (.injected .other "first"), some (.injected .other "second")]⟩, []⟩

theorem unmasked_troubled :
    (run.execute tablesHandler (.of newClaim "operator") troubledTables).outcome =
      .error (.store (.injected .other "first")) ∧
    (run.execute scriptHandler (.of newClaim "operator") (refusing (.unreachable "timed out"))).outcome =
      .error (.store (.rejected .other "PUT" .claim newClaim.key 500 "out of order")) := by
  have halts : Halts tablesHandler stages (.of newClaim "operator") troubledTables
      (firstHalt tablesHandler troubledTables (.injected .other "first")) := halts_first (by decide +kernel)
  have refused : Halts scriptHandler stages (.of newClaim "operator") _
      (firstHalt scriptHandler (refusing (.unreachable "timed out")) outOfOrder) := halts_first (by decide +kernel)
  have live : (Pairing.of newClaim "operator").claim.isLeaving = false := rfl
  obtain ⟨_, planned, _, clustered⟩ := unmasked_iff_takesStatus .epoch live
  refine ⟨planned troubledTables live _ halts, ?_⟩
  refine (clustered Script.answer refused).mpr ?_
  exact ⟨_, _, rfl, by decide +kernel, rfl, trivial⟩

end Garbled

end Pass

end ClaimOperator

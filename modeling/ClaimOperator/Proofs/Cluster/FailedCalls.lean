import ClaimOperator.Proofs.Cluster.Writes
import ClaimOperator.Proofs.Store.Atomicity

/-! A call that is turned down leaves nothing behind.

A caller holds records, changes them as it likes, and calls one client with them; every call is made with a reply of
its own prepared. Where the reply is a refusal, or there is none for want of a connection, the caller is told so with
a store error about what was called for. Neither the caller's records nor the memory of the client are touched, so
every other call of the run sends what it would send without it, and ends in the same way.
-/

set_option autoImplicit false

namespace ClaimOperator.Cluster

/-- The category of store errors that a reply stands for, if it turns the operation down. -/
def HttpReply.refusal? (operation : StoreOperation) : HttpReply → Option StoreError.Category
  | .answered status _ =>
    if isSuccess status then none
    else if status = 404 then some .notFound
    else if status = 409 then some (if operation = .create then .alreadyExists else .conflict)
    else some .other
  | .unreachable _ => some .other
  | .unreadable | .aborted _ => none

abbrev Desk := String → AnyObject

def Desk.keep (desk : Desk) (name : String) : Option AnyObject → Desk
  | some record => Function.update desk name record
  | none => desk

inductive Call where
  | read (kind : Kind) (key : ObjectKey)
  | on (operation : StoreOperation)

def Call.request (record : AnyObject) : Call → StoreRequest
  | .read kind key => .get kind key
  | .on operation => .on operation record.object

theorem Desk.keep_handed (desk : Desk) (name : String) (call : Call) :
    desk.keep name (call.request (desk name)).handed? = desk := by
  cases call with
  | read kind key => rfl
  | on operation => cases operation <;> first | rfl | exact Function.update_eq_self name desk

/-- Records are changed, or a call is made and what comes of it is kept under a name. -/
inductive Act where
  | edit (change : Desk → Desk)
  | call (call : Call) (name : String) (now : Timestamp) (reply : HttpRequest → HttpReply)

structure Turn where
  request : StoreRequest
  exchanges : List Exchange
  outcome : Except Failure request.Answer

structure Caller where
  desk : Desk
  seen : List Sighting

namespace Caller

def take (caller : Caller) : Act → Option Turn × Caller
  | .edit change => (none, { caller with desk := change caller.desk })
  | .call call name now reply =>
    let request := call.request (caller.desk name)
    let server : Server Unit := fun http state => (reply http, state)
    let called := (Client.port server.watched).call request now ⟨((), []), caller.seen⟩
    (some ⟨request, called.store.server.2, called.answer⟩,
      ⟨caller.desk.keep name called.record, called.store.seen⟩)

def run (caller : Caller) : List Act → List Turn × Caller
  | [] => ([], caller)
  | act :: rest =>
    let (turn, next) := caller.take act
    let (turns, final) := next.run rest
    (turn.toList ++ turns, final)

theorem run_append (caller : Caller) (before after : List Act) :
    caller.run (before ++ after) =
      let (turns, reached) := caller.run before
      let (later, final) := reached.run after
      (turns ++ later, final) := by
  induction before generalizing caller with
  | nil => rfl
  | cons act rest ih =>
    simp only [List.cons_append, run, ih, List.append_assoc]

end Caller

theorem judge_of_refusal {operation : StoreOperation} {method : Method} (posts : method = .post ↔ operation = .create)
    (path : String) (kind : Kind) (key : ObjectKey) {reply : HttpReply} {category : StoreError.Category}
    (refused : reply.refusal? operation = some category) :
    ∃ error, judge method path kind key reply = .error (.store error) ∧ error.category = category ∧
      error.subject? = some (kind, key) := by
  cases reply with
  | answered status body =>
    simp only [HttpReply.refusal?] at refused
    cases success : isSuccess status with
    | true => simp [success] at refused
    | false =>
      refine ⟨_, by rw [judge, success]; rfl, ?_, rfl⟩
      simp only [success, Bool.false_eq_true, if_false] at refused
      simp only [StoreError.category, refusal, posts]
      split_ifs at refused ⊢ <;> exact Option.some.inj refused
  | unreachable detail => exact ⟨_, rfl, Option.some.inj refused, rfl⟩
  | unreadable => cases refused
  | aborted cause => cases refused

namespace Client

variable {σ α β : Type} {kind : Kind} {operation : StoreOperation} {method : Method} {key : ObjectKey}
  {client : Client (σ × List Exchange)}

/-- Wherever the server sent a refusal, the caller is told so, and the client remembers what it did before. -/
def Reports (operation : StoreOperation) (kind : Kind) (key : ObjectKey) (client : Client (σ × List Exchange))
    (result : Except Failure α × Client (σ × List Exchange)) : Prop :=
  ∀ exchange ∈ result.2.server.2, ∀ category, exchange.reply.refusal? operation = some category →
    (∃ error, result.1 = .error (.store error) ∧ error.category = category ∧ error.subject? = some (kind, key)) ∧
      result.2.seen = client.seen

theorem reports_of_unsent {result : Except Failure α × Client (σ × List Exchange)} (unsent : result.2.server.2 = []) :
    Reports operation kind key client result := by
  intro exchange sent
  rw [unsent] at sent
  cases sent

theorem Reports.passed_on {result : Except Failure α × Client (σ × List Exchange)}
    {result' : Except Failure β × Client (σ × List Exchange)} (reports : Reports operation kind key client result)
    (sent : result'.2.server = result.2.server)
    (failed : ∀ failure, result.1 = .error failure → result'.1 = .error failure ∧ result'.2.seen = result.2.seen) :
    Reports operation kind key client result' := by
  intro exchange logged category refused
  obtain ⟨⟨error, told, about⟩, kept⟩ := reports exchange (sent ▸ logged) category refused
  obtain ⟨told', kept'⟩ := failed _ told
  exact ⟨⟨error, told', about⟩, kept'.trans kept⟩

section Parts

variable (server : Server σ) (idle : client.server.2 = []) (posts : method = .post ↔ operation = .create)
  (path : String)

include idle posts

theorem reports_exchange (body : Option Json) :
    Reports operation kind key client (client.exchange server.watched method path kind key body) := by
  unfold exchange
  split
  · exact reports_of_unsent idle
  · split
    · intro exchange sent category refused
      simp only [Server.watched, idle, List.mem_singleton] at sent
      subst sent
      exact ⟨judge_of_refusal posts path kind key refused, rfl⟩
    · exact reports_of_unsent idle

theorem reports_fetch (body : Option Json) :
    Reports operation kind key client (client.fetch server.watched method path kind key body) := by
  apply (reports_exchange server idle posts path body).passed_on
  · unfold fetch receive
    split
    · split <;> simp [*]
    · simp [*]
  · intro failure failed
    unfold fetch
    split <;> simp_all

theorem reports_write (object : Object kind) (body : Except Failure Json) :
    Reports operation kind object.key client (client.write server.watched method path object body) := by
  cases body with
  | error failure => exact reports_of_unsent idle
  | ok document =>
    apply (reports_fetch server idle posts path (some document)).passed_on
    · simp only [write]
    · intro failure failed
      simp only [write, failed, Except.map, and_self]

end Parts

theorem reports_remove (server : Server σ) (idle : client.server.2 = []) :
    Reports .delete kind key client (client.remove server.watched kind key) := by
  have posts : Method.delete = .post ↔ StoreOperation.delete = .create := by simp
  apply (reports_exchange server idle posts (objectPath kind key) none).passed_on
  · simp only [remove]
  · intro failure failed
    simp only [remove, failed, Except.map, and_self]

theorem reports_serve (server : Server σ) (idle : client.server.2 = []) (request : StoreRequest) (now : Timestamp) :
    Reports request.operation request.kind request.key client (serve server.watched request now client) := by
  cases request with
  | get kind key =>
    rw [serve_get]
    exact reports_fetch server idle (by simp [StoreRequest.operation]) (objectPath kind key) none
  | create object =>
    rw [serve_create]
    exact reports_write server idle (by simp [StoreRequest.operation]) _ object _
  | update object =>
    rw [serve_update]
    exact reports_write server idle (by simp [StoreRequest.operation]) _ object _
  | updateStatus object =>
    rw [serve_updateStatus]
    exact reports_write server idle (by simp [StoreRequest.operation]) _ object _
  | delete object =>
    rw [serve_delete]
    exact reports_remove server idle

theorem reports_call (server : Server σ) (idle : client.server.2 = []) (request : StoreRequest) (now : Timestamp) :
    Reports request.operation request.kind request.key client
      (((port server.watched).call request now client).answer,
        ((port server.watched).call request now client).store) :=
  reports_serve server idle request now

theorem tidy_port (server : Server σ) : (port server).Tidy where
  create _ := by simp only [port, Procedure.tidy_stamped]
  update _ := by simp only [port, Procedure.tidy_stamped]
  updateStatus _ := by simp only [port, Procedure.tidy_stamped]
  delete _ _ _ := by simp only [port, Procedure.record_onStore]

end Client

namespace Caller

theorem take_refused {caller : Caller} {act : Act} {turn : Turn} (taken : (caller.take act).1 = some turn)
    {exchange : Exchange} (sent : exchange ∈ turn.exchanges) {category : StoreError.Category}
    (refused : exchange.reply.refusal? turn.request.operation = some category) :
    (∃ error, turn.outcome = .error (.store error) ∧ error.category = category ∧
      error.subject? = some (turn.request.kind, turn.request.key)) ∧ (caller.take act).2 = caller := by
  cases act with
  | edit change => cases taken
  | call call name now reply =>
    cases taken
    obtain ⟨⟨error, told, about⟩, kept⟩ := Client.reports_call _ rfl _ now exchange sent category refused
    refine ⟨⟨error, told, about⟩, ?_⟩
    dsimp only at told kept
    simp only [take, (Client.tidy_port _).record_of_failed told, Desk.keep_handed, kept]

/-- A call that is turned down fails with the store error that the reply stands for, about the kind and key of the
call. Without it and its reply, the rest of the run has the same turns: the same requests, in method, target and
body, and the same outcomes. -/
theorem refusals_leave_no_trace (caller : Caller) (before after : List Act) (act : Act) (turn : Turn)
    (taken : ((caller.run before).2.take act).1 = some turn) (exchange : Exchange)
    (sent : exchange ∈ turn.exchanges) (category : StoreError.Category)
    (refused : exchange.reply.refusal? turn.request.operation = some category) :
    (∃ error, turn.outcome = .error (.store error) ∧ error.category = category ∧
      error.subject? = some (turn.request.kind, turn.request.key)) ∧
    ((caller.run before).2.take act).2.desk = (caller.run before).2.desk ∧
    ∃ later final, caller.run (before ++ act :: after) = ((caller.run before).1 ++ turn :: later, final) ∧
      caller.run (before ++ after) = ((caller.run before).1 ++ later, final) := by
  obtain ⟨told, unchanged⟩ := take_refused taken sent refused
  have rest := run_append caller before after
  have whole := run_append caller before (act :: after)
  simp only [run, taken, unchanged, Option.toList_some, List.singleton_append] at whole
  exact ⟨told, congrArg desk unchanged, _, _, whole, rest⟩

def newcomer : Caller where
  desk _ := ⟨.claim, ⟨{ key := ⟨"customer", "my-claim"⟩ }, { legalEntity := ⟨"Example Corp", "entity-1"⟩ }, {}⟩⟩
  seen := []

def writing (operation : StoreOperation) (version : String) : Act :=
  .call (.on operation) "mine" .epoch (PreparedReply.replyTo (.echo (.string version) 200))

def contested : Act :=
  .call (.on .update) "mine" .epoch fun _ => .answered 409 (.text "the object has been modified")

/-- Between a creation and a report, a refused update is told as a conflict, and the report goes out all the same. -/
theorem contested_leaves_no_trace :
    ∃ turn earlier later final, ((newcomer.run [writing .create "7"]).2.take contested).1 = some turn ∧
      (∃ error, turn.outcome = .error (.store error) ∧ error.category = .conflict) ∧
      newcomer.run [writing .create "7", contested, writing .updateStatus "8"] = (earlier ++ turn :: later, final) ∧
      newcomer.run [writing .create "7", writing .updateStatus "8"] = (earlier ++ later, final) := by
  have refusals : ((newcomer.run [writing .create "7"]).2.take contested).1.map (fun turn =>
      turn.exchanges.map fun exchange => exchange.reply.refusal? turn.request.operation) = some [some .conflict] := by
    decide +kernel
  obtain ⟨turn, taken, answers⟩ := Option.map_eq_some_iff.1 refusals
  obtain ⟨exchange, others, logged, refused, -⟩ := List.map_eq_cons_iff.1 answers
  have sent : exchange ∈ turn.exchanges := by simp [logged]
  obtain ⟨⟨error, told, category, -⟩, -, later, final, whole, rest⟩ :=
    refusals_leave_no_trace newcomer [writing .create "7"] [writing .updateStatus "8"] contested turn taken exchange
      sent .conflict refused
  exact ⟨turn, _, later, final, taken, ⟨error, told, category⟩, whole, rest⟩

end Caller

end ClaimOperator.Cluster

import ClaimOperator.Cluster.ApiStore
import ClaimOperator.Proofs.Store.Orderly

/-! When a write to an API server succeeds or fails with a store error, and when it fails otherwise. -/

set_option autoImplicit false

namespace ClaimOperator.Cluster

/-- A refusal, a lost connection, or a success that comes with an object of the kind. -/
def HttpReply.IsClear (kind : Kind) : HttpReply → Prop
  | .answered status body =>
    isSuccess status = true → ∃ document object, body.json? = some document ∧ Manifest.decode kind document = .ok object
  | .unreachable _ => True
  | .unreadable | .aborted _ => False

namespace Client

variable {σ : Type} {kind : Kind} (server : Server σ) (client : Client σ)

theorem orderly_receive_iff (key : ObjectKey) (body : Body) :
    Orderly (fun _ => True) (client.receive kind key body).1 ↔
      ∃ document object, body.json? = some document ∧ Manifest.decode kind document = .ok object := by
  unfold receive
  cases read : body.json? with
  | none => simp [Orderly]
  | some document => cases decoded : Manifest.decode kind document <;> simp [Orderly, Except.mapError, decoded]

theorem orderly_map_iff {α β : Type} (f : α → β) (result : Except Failure α) :
    Orderly (fun _ => True) (result.map f) ↔ Orderly (fun _ => True) result := by
  cases result <;> rfl

theorem orderly_fetch_iff (method : Method) (path : String) (key : ObjectKey) (document : Json) :
    Orderly (fun _ => True) (client.fetch server method path kind key (some document)).1 ↔
      isWritable document = true ∧ ∃ target, Target.ofPath? path = some target ∧
        (server ⟨method, target, some document⟩ client.server).1.IsClear kind := by
  unfold fetch exchange
  cases addressed : Target.ofPath? path with
  | none => simp [Orderly]
  | some target =>
    cases writable : isWritable document with
    | false => simp [Orderly, writable]
    | true =>
      simp only [Option.map_some, Option.getD_some, writable, ↓reduceIte, true_and, Option.some.injEq,
        exists_eq_left']
      obtain ⟨reply, state⟩ := server ⟨method, target, some document⟩ client.server
      cases reply with
      | answered status body =>
        cases success : isSuccess status with
        | true => simp [judge, HttpReply.IsClear, success, orderly_receive_iff]
        | false => simp [judge, HttpReply.IsClear, success]
      | unreachable detail => simp [judge, HttpReply.IsClear]
      | unreadable => simp [judge, HttpReply.IsClear, Orderly]
      | aborted cause => simp [judge, HttpReply.IsClear, Orderly]

theorem base_of_draft {object : Object kind} {failure : Failure} {client : Client σ}
    (refused : client.draft object = .error failure) : ∃ base, failure = .base base := by
  unfold draft at refused
  cases founded : (Foundation.of (client.remembered kind object.key)).toFields with
  | error base =>
    rw [founded] at refused
    cases refused
    exact ⟨base, rfl⟩
  | ok fields =>
    rw [founded] at refused
    cases refused

/-- The write of the status can be drafted and sent, and its answer is clear. -/
def TakesStatus (object : Object kind) : Prop :=
  ∃ document target, client.draft object = .ok document ∧ isWritable document = true ∧
    Target.ofPath? (statusPath kind object.key) = some target ∧
    (server ⟨.put, target, some document⟩ client.server).1.IsClear kind

theorem orderly_updateStatus_iff (object : Object kind) (now : Timestamp) :
    Orderly (fun _ => True) (serve server (.updateStatus object) now client).1 ↔
      client.TakesStatus server object := by
  unfold TakesStatus
  simp only [serve_updateStatus, write]
  cases drafted : client.draft object with
  | error failure =>
    obtain ⟨base, rfl⟩ := base_of_draft drafted
    simp [Orderly]
  | ok document =>
    simp only [orderly_map_iff, orderly_fetch_iff, Except.ok.injEq, exists_and_left, exists_eq_left']

end Client

end ClaimOperator.Cluster

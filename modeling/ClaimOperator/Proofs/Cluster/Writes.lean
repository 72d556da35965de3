import ClaimOperator.Cluster.ApiStore
import ClaimOperator.Cluster.Script
import ClaimOperator.Proofs.Json.Overlay

/-! What a client asks of a server, what it gets, and what it remembers of it.

A server can be watched: it then keeps its exchanges, the latest first. A read that succeeds came with the
document that is remembered. A write is either not sent, or answered; a server that echoes writes answers each
with the document that it was sent, under a version of its own.
-/

set_option autoImplicit false

namespace ClaimOperator.Cluster

structure Exchange where
  request : HttpRequest
  reply : HttpReply

def HttpReply.document? : HttpReply → Option Json
  | .answered _ body => body.json?
  | _ => none

section Servers

variable {σ : Type}

def Server.watched (server : Server σ) : Server (σ × List Exchange) := fun request state =>
  let (reply, after) := server request state.1
  (reply, (after, ⟨request, reply⟩ :: state.2))

/-- Every write is answered with what was sent, under a version of the server's own. -/
def Server.Echoes (server : Server σ) : Prop :=
  ∀ request state document, request.method = .put → request.body = some document →
    ∃ status body version, (server request state).1 = .answered status body ∧ isSuccess status = true ∧
      body.json? = some (PreparedReply.stampVersion (.string version) document)

end Servers

namespace Client

variable {σ : Type} {kind : Kind}

@[simp] theorem server_remember (client : Client σ) (key : ObjectKey) (document : Json) :
    (client.remember kind key document).server = client.server := rfl

@[simp] theorem remembered_remember (client : Client σ) (key : ObjectKey) (document : Json) :
    (client.remember kind key document).remembered kind key = document := by
  simp [remembered, remember]

theorem remembered_remember_of_ne (client : Client σ) {key other : ObjectKey} (document : Json)
    (different : other ≠ key) :
    (client.remember kind key document).remembered kind other = client.remembered kind other := by
  unfold remembered remember
  rw [List.find?_cons_of_neg (by simp [Ne.symm different]), List.find?_filter]
  congr 2
  funext sighting
  by_cases found : sighting.key = other <;> simp [found, different]

theorem remembered_eq_null {client : Client σ} {key : ObjectKey}
    (unseen : ∀ sighting ∈ client.seen, sighting.kind = kind → sighting.key ≠ key) :
    client.remembered kind key = .null := by
  have missing : (client.seen.find? fun sighting => sighting.kind = kind && sighting.key = key) = none := by
    rw [List.find?_eq_none]
    intro sighting held
    simpa using unseen sighting held
  unfold remembered
  rw [missing]

theorem exchange_eq_ok {server : Server σ} {method : Method} {path : String} {key : ObjectKey} {body : Option Json}
    {client after : Client σ} {content : Body}
    (exchanged : client.exchange server method path kind key body = (.ok content, after)) :
    ∃ target status, (server ⟨method, target, body⟩ client.server).1 = .answered status content ∧
      after = { client with server := (server ⟨method, target, body⟩ client.server).2 } := by
  unfold exchange at exchanged
  cases addressed : Target.ofPath? path with
  | none => simp [addressed] at exchanged
  | some target =>
    simp only [addressed] at exchanged
    split at exchanged
    · obtain ⟨judged, rfl⟩ := Prod.mk.inj exchanged
      cases replied : (server ⟨method, target, body⟩ client.server).1 with
      | answered status found =>
        rw [replied, judge] at judged
        split at judged
        · cases judged
          exact ⟨target, status, replied, rfl⟩
        · cases judged
      | _ => rw [replied] at judged; cases judged
    · cases exchanged

theorem receive_eq_ok {key : ObjectKey} {content : Body} {client after : Client σ} {object : Object kind}
    (received : client.receive kind key content = (.ok object, after)) :
    ∃ document, content.json? = some document ∧ Manifest.decode kind document = .ok object ∧
      after = client.remember kind key document := by
  unfold receive at received
  cases read : content.json? with
  | none => simp [read] at received
  | some document =>
    simp only [read] at received
    obtain ⟨accepted, rfl⟩ := Prod.mk.inj received
    cases decoded : Manifest.decode kind document with
    | error error => rw [decoded] at accepted; cases accepted
    | ok found =>
      rw [decoded] at accepted
      cases accepted
      exact ⟨document, rfl, decoded, rfl⟩

/-- An object that was read came in a document, which is what is remembered of it. -/
theorem fetch_eq_ok {server : Server σ} {method : Method} {path : String} {key : ObjectKey} {body : Option Json}
    {client after : Client σ} {object : Object kind}
    (fetched : client.fetch server method path kind key body = (.ok object, after)) :
    ∃ target document, (server ⟨method, target, body⟩ client.server).1.document? = some document ∧
      Manifest.decode kind document = .ok object ∧
      after = remember { client with server := (server ⟨method, target, body⟩ client.server).2 } kind key
        document := by
  unfold fetch at fetched
  split at fetched
  · rename_i content reached exchanged
    obtain ⟨target, status, replied, rfl⟩ := exchange_eq_ok exchanged
    obtain ⟨document, read, decoded, rfl⟩ := receive_eq_ok fetched
    exact ⟨target, document, by rw [replied]; exact read, decoded, rfl⟩
  · cases fetched

theorem write_put_echoed {server : Server σ} (echoes : server.Echoes) (client : Client (σ × List Exchange))
    (path : String) (object : Object kind) (document : Json) :
    ((∃ failure, client.write server.watched .put path object (.ok document) = (.error failure, client)) ∧
        (Target.ofPath? path = none ∨ isWritable document = false)) ∨
      ∃ target version reply state,
        reply.document? = some (PreparedReply.stampVersion (.string version) document) ∧
        client.write server.watched .put path object (.ok document) =
          (((Manifest.decode kind (PreparedReply.stampVersion (.string version) document)).mapError
              Failure.manifest).map (·.metadata.version),
            remember ⟨(state, ⟨⟨.put, target, some document⟩, reply⟩ :: client.server.2), client.seen⟩ kind object.key
              (PreparedReply.stampVersion (.string version) document)) := by
  simp only [write, fetch, exchange]
  cases addressed : Target.ofPath? path with
  | none => exact .inl ⟨⟨_, rfl⟩, .inl rfl⟩
  | some target =>
    cases writable : isWritable document with
    | false =>
      refine .inl ⟨⟨.exchange .unwritableNumber, ?_⟩, .inr rfl⟩
      simp [writable, Except.map]
    | true =>
      -- The reply of the server is the one that it gives unwatched.
      obtain ⟨status, body, version, replied, success, read⟩ :=
        echoes ⟨.put, target, some document⟩ client.server.1 document rfl rfl
      refine .inr ⟨target, version, .answered status body,
        (server ⟨.put, target, some document⟩ client.server.1).2, read, ?_⟩
      simp [writable, Server.watched, replied, judge, success, receive, read]

theorem draft_eq_ok {client : Client σ} {object : Object kind} {fields : Json.Fields}
    (founded : (Foundation.of (client.remembered kind object.key)).toFields = .ok fields) :
    client.draft object = .ok (Json.overlay (.object fields) (Manifest.encode object)) := by
  unfold draft
  rw [founded, Manifest.encode, Json.overlay_object]
  rfl

end Client

end ClaimOperator.Cluster

import ClaimOperator.Proofs.Cluster.Writable
import ClaimOperator.Proofs.Cluster.Writes
import ClaimOperator.Proofs.Manifest.Drafts
import Mathlib.Data.List.Chain

/-! The fields of other clients, through any number of writes.

A client reads an object once and then writes it again and again, with whatever changes of its own. As long as
the server keeps what it is sent, each write stands on the answer to the one before it, and has the fields that
no manifest of the kind knows just as they were read.
-/

set_option autoImplicit false

namespace ClaimOperator.Cluster

open Manifest (Unwritten Carries Ground)

def Exchange.Answers (kind : Kind) (version : Option String) (exchange : Exchange) : Prop :=
  ∃ document, exchange.reply.document? = some document ∧
    ∃ object : Object kind, Manifest.decode kind document = .ok object ∧ object.metadata.version = version

/-- New values for the fields of an object, and whether they are written as a whole or by its status. -/
structure Edit (kind : Kind) where
  finalizers : List String
  deletionTime : Option Timestamp
  spec : kind.Spec
  status : kind.Status
  ofStatus : Bool

namespace Edit

variable {kind : Kind} {σ : Type}

def apply (edit : Edit kind) (object : Object kind) : Object kind where
  metadata := { object.metadata with finalizers := edit.finalizers, deletionTime := edit.deletionTime }
  spec := edit.spec
  status := edit.status

def path (edit : Edit kind) (key : ObjectKey) : String :=
  if edit.ofStatus then statusPath kind key else objectPath kind key

def submit (server : Server σ) (now : Timestamp) (edit : Edit kind) (object : Object kind) (client : Client σ) :
    Except Failure (Option String) × Client σ :=
  if edit.ofStatus then Client.serve server (.updateStatus object) now client
  else Client.serve server (.update object) now client

theorem submit_eq (server : Server σ) (now : Timestamp) (edit : Edit kind) (object : Object kind)
    (client : Client σ) :
    edit.submit server now object client =
      client.write server .put (edit.path object.key) object (client.draft object) := by
  unfold submit path
  split
  · exact Client.serve_updateStatus server object now client
  · exact Client.serve_update server object now client

/-- Write the edited object. What the caller then holds has the version of the answer, if there was one. -/
def send (server : Server σ) (now : Timestamp) (before : Client σ × Object kind) (edit : Edit kind) :
    Client σ × Object kind :=
  let object := edit.apply before.2
  match edit.submit server now object before.1 with
  | (.ok version, after) => (after, object.withVersion version)
  | (.error _, after) => (after, object)

end Edit

def Addressable (kind : Kind) (key : ObjectKey) : Prop :=
  Target.ofPath? (objectPath kind key) ≠ none ∧ Target.ofPath? (statusPath kind key) ≠ none

/-- A write that carries the version of the answer before it, and has what was kept where no manifest has anything. -/
structure Exchange.Upholds (kind : Kind) (kept : Json) (put latest : Exchange) : Prop where
  method : put.request.method = .put
  body : ∃ body version, put.request.body = some body ∧ latest.Answers kind version ∧ Carries body version ∧
    ∀ path, Unwritten kind path → body.at? path = kept.at? path

/-- The exchanges of a client that read an object and then sent a number of edits of it. Nothing but a number that
cannot be written, or such an address, keeps one from being sent. -/
structure Upheld (kind : Kind) (key : ObjectKey) (kept : Json) (reading : Exchange) (edits : Nat)
    (log : List Exchange) : Prop where
  first : log.getLast? = some reading
  writes : log.IsChain (Exchange.Upholds kind kept)
  complete : isWritable kept = true → Addressable kind key → log.length = edits + 1

structure Keeps (kind : Kind) (kept : Json) (version : Option String) (ground : Json) : Prop where
  under : Ground kind version ground
  agrees : ∀ path, Unwritten kind path → ground.at? path = kept.at? path
  writable : isWritable kept = true → isWritable ground = true

/-- What the next write of an object is made from: a ground of that sort, and the version of the latest answer. -/
structure Standing {σ : Type} {kind : Kind} (kept : Json) (client : Client (σ × List Exchange))
    (object : Object kind) : Prop where
  ground : ∃ fields, (Foundation.of (client.remembered kind object.key)).toFields = .ok fields ∧
    Keeps kind kept object.metadata.version (.object fields)
  latest : ∃ exchange earlier, client.server.2 = exchange :: earlier ∧ exchange.Answers kind object.metadata.version

section Steps

variable {σ : Type} {kind : Kind} {server : Server σ} {kept ground : Json} {reading : Exchange} {edits : Nat}

theorem Keeps.overlay {version : Option String} (keeps : Keeps kind kept version ground) (object : Object kind)
    (numbered : object.metadata.version.isSome) :
    Keeps kind kept object.metadata.version (Json.overlay ground (Manifest.encode object)) where
  under := by
    obtain ⟨stored, decoded, versioned⟩ := keeps.under.reads object
    exact .inr ⟨stored, decoded, versioned numbered⟩
  agrees := by
    intro path unwritten
    rw [keeps.under.at?_of_unwritten unwritten, keeps.agrees path unwritten]
  writable whole := isWritable_overlay ground _ (keeps.writable whole) (isWritable_encode object)

theorem Keeps.upholds {version : Option String} {latest : Exchange} (keeps : Keeps kind kept version ground)
    (answers : latest.Answers kind version) (object : Object kind)
    (held : object.metadata.version = version) (target : String) (reply : HttpReply) :
    Exchange.Upholds kind kept ⟨⟨.put, target, some (Json.overlay ground (Manifest.encode object))⟩, reply⟩
      latest := by
  refine ⟨rfl, _, version, rfl, answers, keeps.under.carries held, ?_⟩
  intro path unwritten
  rw [keeps.under.at?_of_unwritten unwritten, keeps.agrees path unwritten]

theorem addressable_path {key : ObjectKey} (addressable : Addressable kind key) (edit : Edit kind) :
    Target.ofPath? (edit.path key) ≠ none := by
  unfold Edit.path
  split
  · exact addressable.2
  · exact addressable.1

theorem Standing.send (echoes : server.Echoes) {client : Client (σ × List Exchange)} {object : Object kind}
    (standing : Standing kept client object) (upheld : Upheld kind object.key kept reading edits client.server.2)
    (now : Timestamp) (edit : Edit kind) :
    let after := edit.send server.watched now (client, object)
    Standing kept after.1 after.2 ∧ after.2.key = object.key ∧
      Upheld kind object.key kept reading (edits + 1) after.1.server.2 := by
  obtain ⟨⟨fields, founded, keeps⟩, exchange, earlier, logged, answers⟩ := standing
  have drafted : client.draft (edit.apply object) = .ok (Json.overlay (.object fields) _) :=
    Client.draft_eq_ok founded
  simp only [Edit.send, Edit.submit_eq, drafted]
  obtain ⟨⟨failure, unsent⟩, hindered⟩ | ⟨target, version, reply, state, answered, sent⟩ :=
    Client.write_put_echoed echoes client (edit.path (edit.apply object).key) (edit.apply object)
      (Json.overlay (.object fields) (Manifest.encode (edit.apply object)))
  · -- Nothing was sent, so only the caller's own copy has changed.
    rw [unsent]
    refine ⟨⟨⟨fields, founded, keeps⟩, exchange, earlier, logged, answers⟩, rfl, upheld.first, upheld.writes, ?_⟩
    intro whole addressable
    obtain lost | refused := hindered
    · exact absurd lost (addressable_path addressable edit)
    · rw [isWritable_overlay _ _ (keeps.writable whole) (isWritable_encode _)] at refused
      cases refused
  · -- The answer is the manifest of the same object under the new version, over the same ground.
    rw [Manifest.stampVersion_overlay] at answered sent
    obtain ⟨stored, decoded, numbered⟩ := keeps.under.reads ((edit.apply object).withVersion (some version))
    have held : stored.metadata.version = some version := numbered rfl
    simp only [sent, decoded, Except.mapError, Except.map, held]
    have next := keeps.overlay ((edit.apply object).withVersion (some version)) rfl
    rw [Manifest.encode, Json.overlay_object] at next
    refine ⟨⟨⟨_, ?_, next⟩, _, _, rfl, _, answered, stored, decoded, held⟩, rfl, ?_, ?_, ?_⟩
    · rw [Object.key_withVersion, Client.remembered_remember, Manifest.encode, Json.overlay_object]
      rfl
    · rw [Client.server_remember, List.getLast?_cons, upheld.first]
      rfl
    · have chained := upheld.writes
      rw [logged] at chained
      rw [Client.server_remember, logged]
      exact List.isChain_cons_cons.2 ⟨keeps.upholds answers (edit.apply object) rfl target reply, chained⟩
    · intro whole addressable
      rw [Client.server_remember, List.length_cons, upheld.complete whole addressable]

theorem Standing.sends (echoes : server.Echoes) {client : Client (σ × List Exchange)} {object : Object kind}
    {sent : Nat} (standing : Standing kept client object)
    (upheld : Upheld kind object.key kept reading sent client.server.2) (now : Timestamp) (edits : List (Edit kind)) :
    Upheld kind object.key kept reading (sent + edits.length)
      (edits.foldl (Edit.send server.watched now) (client, object)).1.server.2 := by
  -- Client and object change with every edit; the key, and what was kept, stay.
  induction edits generalizing client object sent with
  | nil => exact upheld
  | cons edit rest ih =>
    obtain ⟨next, key, longer⟩ := standing.send echoes upheld now edit
    have run := ih next (key ▸ longer)
    rw [key] at run
    rw [List.length_cons, Nat.add_comm rest.length, ← Nat.add_assoc]
    exact run

theorem Standing.upheld (echoes : server.Echoes) {client : Client (σ × List Exchange)} {object : Object kind}
    (standing : Standing kept client object) (alone : client.server.2 = [reading]) (now : Timestamp)
    (edits : List (Edit kind)) :
    Upheld kind object.key kept reading edits.length
      (edits.foldl (Edit.send server.watched now) (client, object)).1.server.2 := by
  have start : Upheld kind object.key kept reading 0 client.server.2 := by
    rw [alone]
    exact ⟨rfl, .singleton reading, fun _ _ => rfl⟩
  have run := standing.sends echoes start now edits
  rwa [Nat.zero_add] at run

end Steps

/-- A manifest was read, and then its object is edited and written any number of times. Each write carries the version
of the answer before it. What the manifest has of other clients stands in every write, if the object in it is the one
that was asked for; an object of another key is one of which nothing was read, and its writes have none of it. -/
theorem foreign_fields_survive {σ : Type} {kind : Kind} (server : Server σ) (echoes : server.Echoes) (state : σ)
    (seen : List Sighting) (key : ObjectKey) (now : Timestamp) (object : Object kind)
    (client : Client (σ × List Exchange))
    (read : Client.serve server.watched (.get kind key) now ⟨(state, []), seen⟩ = (.ok object, client)) :
    ∃ reading manifest, client.server.2 = [reading] ∧ reading.request.method = .get ∧
      reading.reply.document? = some manifest ∧ Manifest.decode kind manifest = .ok object ∧
      ∀ edits : List (Edit kind),
        (object.key = key → Upheld kind key manifest reading edits.length
          (edits.foldl (Edit.send server.watched now) (client, object)).1.server.2) ∧
        (object.key ≠ key → (∀ sighting ∈ seen, sighting.kind = kind → sighting.key ≠ object.key) →
          Upheld kind object.key (.object []) reading edits.length
            (edits.foldl (Edit.send server.watched now) (client, object)).1.server.2) := by
  rw [Client.serve_get] at read
  obtain ⟨target, manifest, replied, decoded, rfl⟩ := Client.fetch_eq_ok read
  obtain ⟨fields, rfl⟩ := Ground.fields (.inr ⟨object, decoded, rfl⟩)
  have answers : Exchange.Answers kind object.metadata.version ⟨⟨.get, target, none⟩, _⟩ :=
    ⟨_, replied, object, decoded, rfl⟩
  refine ⟨_, .object fields, rfl, rfl, replied, decoded, fun edits => ⟨?_, ?_⟩⟩
  · rintro rfl
    refine Standing.upheld echoes ⟨⟨fields, ?_, .inr ⟨object, decoded, rfl⟩, fun _ _ => rfl, id⟩, _, [], rfl, answers⟩
      rfl now edits
    rw [Client.remembered_remember]
    rfl
  · -- What was read lies under the key that was asked for, so the first draft has an empty ground.
    intro elsewhere unseen
    refine Standing.upheld echoes ⟨⟨[], ?_, .inl rfl, fun _ _ => rfl, id⟩, _, [], rfl, answers⟩ rfl now edits
    rw [Client.remembered_remember_of_ne _ _ elsewhere, Client.remembered_eq_null unseen]
    rfl

def mirror (document : Json) : Server Nat := fun request count =>
  match request.body with
  | some body =>
    (.answered 200 (.document (PreparedReply.stampVersion (.string (Text.decimal (count + 1))) body)), count + 1)
  | none => (.answered 200 (.document document), count)

theorem mirror_echoes (document : Json) : (mirror document).Echoes := by
  rintro ⟨method, target, content⟩ state body - rfl
  exact ⟨200, _, Text.decimal (state + 1), rfl, rfl, rfl⟩

def labelled (place : Json.Fields) : Json :=
  .object
    [("metadata", .object ([("name", .string "my-claim"), ("labels", .object [("team", .string "platform")]),
      ("resource_version", .string "8")] ++ place)),
    ("spec", .object [("legalEntity", .object []), ("billingAccount", .string "acct-1")])]

def labelledClaim (space : String) : Claim where
  metadata := { key := ⟨space, "my-claim"⟩, version := some "8" }
  spec := { legalEntity := ⟨"", ""⟩ }
  status := {}

def finalizing : Edit .claim where
  finalizers := ["finalizer.gcp.managed.openshift.io"]
  deletionTime := none
  spec := { legalEntity := ⟨"", ""⟩ }
  status := {}
  ofStatus := false

def conditioning : Edit .claim where
  finalizers := []
  deletionTime := none
  spec := { legalEntity := ⟨"Example Corp", "entity-1"⟩ }
  status := { phase := some .pending, conditions := some [] }
  ofStatus := true

def placed : Json := labelled [("namespace", .string "customer")]

def claimKey : ObjectKey := ⟨"customer", "my-claim"⟩

def reader (document : Json) : Client (Nat × List Exchange) :=
  (Client.serve (mirror document).watched (.get .claim claimKey) .epoch ⟨(8, []), []⟩).2

/-- Both writes are sent, and both have the labels, the account and the plain spelling of the version. -/
theorem labels_survive_two_writes :
    (mirror placed).Echoes ∧
    Client.serve (mirror placed).watched (.get .claim claimKey) .epoch ⟨(8, []), []⟩ =
      (.ok (labelledClaim "customer"), reader placed) ∧
    isWritable placed = true ∧ Addressable .claim claimKey ∧
    ∃ reading, (reader placed).server.2 = [reading] ∧ reading.reply.document? = some placed ∧
      Upheld .claim claimKey placed reading 2
        ([finalizing, conditioning].foldl (Edit.send (mirror placed).watched .epoch)
          (reader placed, labelledClaim "customer")).1.server.2 := by
  have read : Client.serve (mirror placed).watched (.get .claim claimKey) .epoch ⟨(8, []), []⟩ =
      (.ok (labelledClaim "customer"), reader placed) := by rfl
  have documents : (reader placed).server.2.map (·.reply.document?) = [some placed] := by decide +kernel
  have addressable : Addressable .claim claimKey := by constructor <;> decide +kernel
  obtain ⟨reading, manifest, logged, -, answered, -, run⟩ :=
    foreign_fields_survive (mirror placed) (mirror_echoes placed) 8 [] claimKey .epoch (labelledClaim "customer")
      (reader placed) read
  rw [logged, List.map_singleton, answered] at documents
  obtain rfl : manifest = placed := Option.some.inj (List.singleton_inj.1 documents)
  exact ⟨mirror_echoes placed, read, by decide, addressable, reading, logged, answered,
    (run [finalizing, conditioning]).1 rfl⟩

theorem unwritten_labels (kind : Kind) : Unwritten kind ["metadata", "labels"] := by
  rintro ⟨⟨key, finalizers, deletionTime, version⟩, spec, status⟩
  cases deletionTime <;> cases version <;> rfl

/-- Without a namespace the claim is not the one that was asked for, and the labels that came with it are dropped. -/
theorem labels_lost_elsewhere :
    (mirror (labelled [])).Echoes ∧ Manifest.decode .claim (labelled []) = .ok (labelledClaim "") ∧
    Client.serve (mirror (labelled [])).watched (.get .claim claimKey) .epoch ⟨(8, []), []⟩ =
      (.ok (labelledClaim ""), reader (labelled [])) ∧
    ¬ (finalizing.send (mirror (labelled [])).watched .epoch
      (reader (labelled []), labelledClaim "")).1.server.2.IsChain (Exchange.Upholds .claim (labelled [])) := by
  refine ⟨mirror_echoes _, by rfl, by rfl, fun chained => ?_⟩
  have bodies : ((finalizing.send (mirror (labelled [])).watched .epoch
      (reader (labelled []), labelledClaim "")).1.server.2.map fun exchange =>
        exchange.request.body.bind (·.at? ["metadata", "labels"])) = [none, none] := by decide +kernel
  obtain ⟨put, rest, logged, lost, others⟩ := List.map_eq_cons_iff.1 bodies
  obtain ⟨reading, last, rfl, -, -⟩ := List.map_eq_cons_iff.1 others
  rw [logged] at chained
  obtain ⟨-, body, version, sent, -, -, agrees⟩ := (List.isChain_cons_cons.1 chained).1
  rw [sent, Option.bind_some, agrees ["metadata", "labels"] (unwritten_labels .claim)] at lost
  cases lost

end ClaimOperator.Cluster

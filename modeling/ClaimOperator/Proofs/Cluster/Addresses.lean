import ClaimOperator.Proofs.Cluster.SentObjects
import ClaimOperator.Proofs.Cluster.Targets
import ClaimOperator.Proofs.Cluster.Writable
import ClaimOperator.Text.Blank

/-! Which requests a client tells apart by method and target.

A path is put together from the texts of a key as they are. Where these have no slash, the path tells what is done
to which object; the target that it is sent to does so where the texts are single segments, up to escapes that are
in the texts themselves. A name with a slash in it is taken for two segments, and the last of them may be that of
the status of another object.
-/

set_option autoImplicit false

namespace ClaimOperator

namespace StoreOperation

def method : StoreOperation → Cluster.Method
  | get => .get
  | create => .post
  | update | updateStatus => .put
  | delete => .delete

def lastPieces (name : List Char) : StoreOperation → List (List Char)
  | create => []
  | updateStatus => [name, "status".toList]
  | get | update | delete => [name]

end StoreOperation

namespace StoreRequest

open Cluster

def path : StoreRequest → String
  | get kind key => objectPath kind key
  | @create kind object => listPath kind object.key.space
  | @update kind object | @delete kind object => objectPath kind object.key
  | @updateStatus kind object => statusPath kind object.key

/-- The pieces of the path, of which the first is empty. -/
def pieces (request : StoreRequest) : List (List Char) :=
  [[], "apis".toList, "gcp.managed.openshift.io".toList, "v1alpha1".toList, "namespaces".toList,
    request.key.space.toList, (pluralName request.kind).toList] ++ request.operation.lastPieces request.key.name.toList

theorem toList_path (request : StoreRequest) : request.path.toList = Text.joinWith '/' request.pieces := by
  cases request <;>
    simp [path, objectPath, listPath, statusPath, Manifest.apiVersion, pieces, StoreOperation.lastPieces, operation,
      key, kind, Text.joinWith, List.intercalate]

def fixedPieces : List (List Char) :=
  [[], "apis".toList, "gcp.managed.openshift.io".toList, "v1alpha1".toList, "namespaces".toList,
    "projectclaims".toList, "projectreferences".toList, "status".toList]

theorem forall_mem_pieces {holds : List Char → Prop} {request : StoreRequest}
    (fixed : ∀ piece ∈ fixedPieces, holds piece) (space : holds request.key.space.toList)
    (name : holds request.key.name.toList) : ∀ piece ∈ request.pieces, holds piece := by
  simp only [fixedPieces, List.forall_mem_cons] at fixed
  obtain ⟨empty, apis, group, version, spaces, claims, references, status, -⟩ := fixed
  have plural : holds (pluralName request.kind).toList := by
    cases request.kind
    · exact claims
    · exact references
  have last : ∀ piece ∈ request.operation.lastPieces request.key.name.toList, holds piece := by
    cases request.operation <;> simp only [StoreOperation.lastPieces, List.forall_mem_cons]
    case create => simp
    case updateStatus => exact ⟨name, status, by simp⟩
    all_goals exact ⟨name, by simp⟩
  simp only [pieces, List.cons_append, List.nil_append, List.forall_mem_cons]
  exact ⟨empty, apis, group, version, spaces, space, plural, last⟩

/-- The same operation on the same resource, as far as the forms of the texts tell. A creation says only where the
object goes. -/
structure Alike {α : Type} (form : String → α) (request other : StoreRequest) : Prop where
  operation : request.operation = other.operation
  kind : request.kind = other.kind
  space : form request.key.space = form other.key.space
  name : request.operation ≠ .create → form request.key.name = form other.key.name

section Alike

variable {request other : StoreRequest} {form : List Char → List Char}

theorem Alike.of_form {α β : Type} {form : String → α} {likeness : String → β} (alike : Alike form request other)
    (space : form request.key.space = form other.key.space → likeness request.key.space = likeness other.key.space)
    (name : form request.key.name = form other.key.name → likeness request.key.name = likeness other.key.name) :
    Alike likeness request other :=
  ⟨alike.operation, alike.kind, space alike.space, fun named => name (alike.name named)⟩

/-- The method and the last pieces tell the operation, and the name unless that is a creation. -/
theorem lastPieces_injOn {operation likewise : StoreOperation} {name title : List Char}
    (method : operation.method = likewise.method)
    (pieces : (operation.lastPieces name).map form = (likewise.lastPieces title).map form) :
    operation = likewise ∧ (operation ≠ .create → form name = form title) := by
  cases operation <;> cases likewise <;> simp_all [StoreOperation.method, StoreOperation.lastPieces]

theorem pieces_eq_iff_alike
    (kinds : ∀ kind other, form (pluralName kind).toList = form (pluralName other).toList → kind = other) :
    request.operation.method = other.operation.method ∧ request.pieces.map form = other.pieces.map form ↔
      Alike (fun text => form text.toList) request other := by
  simp only [pieces, List.cons_append, List.nil_append, List.map_cons, List.cons.injEq, true_and]
  constructor
  · rintro ⟨method, space, plural, last⟩
    obtain ⟨operation, name⟩ := lastPieces_injOn method last
    exact ⟨operation, kinds _ _ plural, space, name⟩
  · rintro ⟨operation, kind, space, name⟩
    refine ⟨by rw [operation], space, by rw [kind], ?_⟩
    rw [← operation]
    cases done : request.operation <;> simp [StoreOperation.lastPieces, done] at name ⊢ <;> exact name

/-- Alike in method and path, as the path is put together. -/
def SamePath (request other : StoreRequest) : Prop :=
  request.operation.method = other.operation.method ∧ request.path = other.path

abbrev IsSlashless (key : ObjectKey) : Prop := '/' ∉ key.space.toList ∧ '/' ∉ key.name.toList

theorem slash_notMem_pieces (slashless : IsSlashless request.key) : ∀ piece ∈ request.pieces, '/' ∉ piece :=
  forall_mem_pieces (by decide) slashless.1 slashless.2

theorem samePath_iff_alike (slashless : IsSlashless request.key) (clear : IsSlashless other.key) :
    SamePath request other ↔ Alike id request other := by
  have paths : request.path = other.path ↔ request.pieces.map id = other.pieces.map id := by
    rw [← String.toList_inj, toList_path, toList_path, List.map_id, List.map_id]
    exact ⟨Text.joinWith_injOn (by simp [pieces]) (by simp [pieces]) (slash_notMem_pieces slashless)
      (slash_notMem_pieces clear), congrArg _⟩
  have kinds : ∀ kind other : Kind, (pluralName kind).toList = (pluralName other).toList → kind = other := by
    intro kind other
    cases kind <;> cases other <;> decide
  rw [SamePath, paths, pieces_eq_iff_alike kinds]
  exact ⟨fun alike => alike.of_form String.toList_inj.mp String.toList_inj.mp,
    fun alike => alike.of_form String.toList_inj.mpr String.toList_inj.mpr⟩

end Alike

end StoreRequest

namespace Cluster

open Target (IsSegment written)

/-- What a client sends to its server when it is asked for something, whatever it remembers and whatever the reply. -/
def Sends (request : StoreRequest) (http : HttpRequest) : Prop :=
  ∃ (σ : Type) (server : Server σ) (client : Client (σ × List Exchange)) (now : Timestamp) (reply : HttpReply),
    (client.serve server.watched request now).2.server.2 = ⟨http, reply⟩ :: client.server.2

section Sending

variable {σ : Type} {kind : Kind} {request : StoreRequest} {http : HttpRequest}

theorem Client.server_fetch (server : Server σ) (method : Method) (path : String) (key : ObjectKey)
    (body : Option Json) (client : Client σ) :
    (client.fetch server method path kind key body).2.server =
      (client.exchange server method path kind key body).2.server := by
  unfold fetch
  split
  · rename_i content reached exchanged
    rw [exchanged, server_receive]
  · rename_i failure reached exchanged
    rw [exchanged]

theorem Client.server_write (server : Server σ) (method : Method) (path : String) (object : Object kind)
    (document : Json) (client : Client σ) :
    (client.write server method path object (.ok document)).2.server =
      (client.exchange server method path kind object.key (some document)).2.server :=
  server_fetch server method path object.key (some document) client

def Client.body (client : Client σ) : StoreRequest → Except Failure (Option Json)
  | .get .. | .delete _ => .ok none
  | .create object => .ok (some (creationDocument object))
  | .update object | .updateStatus object => (client.draft object).map some

/-- The server sees of a call the one exchange that it is made of, or nothing where nothing can be drafted. -/
theorem Client.server_serve (server : Server σ) (client : Client σ) (request : StoreRequest) (now : Timestamp) :
    (client.serve server request now).2.server =
      match client.body request with
      | .ok body =>
        (client.exchange server request.operation.method request.path request.kind request.key body).2.server
      | .error _ => client.server := by
  cases request
  case update object | updateStatus object =>
    simp only [serve_update, serve_updateStatus, body]
    cases client.draft object with
    | error failure => rfl
    | ok document =>
      simp only [server_write, Except.map, StoreRequest.operation, StoreOperation.method, StoreRequest.path,
        StoreRequest.kind, StoreRequest.key]
  all_goals
    simp only [serve_get, serve_create, serve_delete, body, server_fetch, server_write, remove, StoreRequest.operation,
      StoreOperation.method, StoreRequest.path, StoreRequest.kind, StoreRequest.key]

theorem Sends.addressed (sent : Sends request http) :
    http.method = request.operation.method ∧ Target.ofPath? request.path = some http.target := by
  obtain ⟨σ, server, client, now, reply, logged⟩ := sent
  rw [Client.server_serve] at logged
  split at logged
  · rename_i body _
    unfold Client.exchange at logged
    split at logged
    · simp at logged
    · rename_i target addressed
      split at logged
      · cases (List.cons.inj logged).1
        exact ⟨rfl, addressed⟩
      · simp at logged
  · simp at logged

def Client.fresh : Client (Unit × List Exchange) := { server := ((), []) }

theorem Client.body_fresh (request : StoreRequest) :
    ∃ body, fresh.body request = .ok body ∧ (body.map isWritable).getD true = true := by
  have drafted {kind : Kind} (object : Object kind) :
      ∃ document, fresh.draft object = .ok document ∧ isWritable document = true := by
    have founded : (Foundation.of (fresh.remembered kind object.key)).toFields = .ok [] := rfl
    exact ⟨_, draft_eq_ok founded, isWritable_overlay _ _ rfl (isWritable_encode object)⟩
  cases request with
  | get kind key => exact ⟨none, rfl, rfl⟩
  | delete object => exact ⟨none, rfl, rfl⟩
  | create object =>
    refine ⟨some (creationDocument object), rfl, ?_⟩
    rw [Option.map_some, Option.getD_some, creationDocument]
    exact isWritable_encode _
  | update object | updateStatus object =>
    obtain ⟨document, draft, writable⟩ := drafted object
    exact ⟨some document, by rw [body, draft]; rfl, writable⟩

theorem sends_of_target {target : String} (addressed : Target.ofPath? request.path = some target) :
    ∃ body, Sends request ⟨request.operation.method, target, body⟩ := by
  obtain ⟨body, drafted, writable⟩ := Client.body_fresh request
  let silent : Server Unit := fun _ state => (.unreachable "", state)
  refine ⟨body, Unit, silent, .fresh, .epoch, .unreachable "", ?_⟩
  rw [Client.server_serve, drafted]
  simp [Client.exchange, addressed, writable, Server.watched, silent, Client.fresh]

end Sending

/-! Keys whose texts are segments. -/

abbrev FitsPath (key : ObjectKey) : Prop := IsSegment key.space.toList ∧ IsSegment key.name.toList

abbrev IsUnescaped (key : ObjectKey) : Prop := '%' ∉ key.space.toList ∧ '%' ∉ key.name.toList

def SameRequest (http likewise : HttpRequest) : Prop := http.method = likewise.method ∧ http.target = likewise.target

section Segments

variable {request other : StoreRequest} {http likewise : HttpRequest}

theorem isSegment_pieces (fits : FitsPath request.key) : ∀ piece ∈ request.pieces, IsSegment piece :=
  StoreRequest.forall_mem_pieces (by decide) fits.1 fits.2

theorem toList_target (fits : FitsPath request.key) (sent : Sends request http) :
    http.target.toList = Text.joinWith '/' (request.pieces.map written) :=
  Target.ofPath?_of_segments request.toList_path (isSegment_pieces fits) sent.addressed.2

theorem target_eq_iff (fits : FitsPath request.key) (suits : FitsPath other.key) (sent : Sends request http)
    (asked : Sends other likewise) :
    http.target = likewise.target ↔ request.pieces.map written = other.pieces.map written := by
  have slashless {request : StoreRequest} (fits : FitsPath request.key) :
      ∀ piece ∈ request.pieces.map written, '/' ∉ piece := by
    intro piece member
    obtain ⟨source, here, rfl⟩ := List.mem_map.mp member
    exact (isSegment_pieces fits source here).written.slash
  rw [← String.toList_inj, toList_target fits sent, toList_target suits asked]
  exact ⟨Text.joinWith_injOn (by simp [StoreRequest.pieces]) (by simp [StoreRequest.pieces]) (slashless fits)
    (slashless suits), congrArg _⟩

theorem sameRequest_iff_alike (fits : FitsPath request.key) (suits : FitsPath other.key) (sent : Sends request http)
    (asked : Sends other likewise) :
    SameRequest http likewise ↔ StoreRequest.Alike (fun text => written text.toList) request other := by
  have kinds : ∀ kind other : Kind, written (pluralName kind).toList = written (pluralName other).toList →
      kind = other := by
    intro kind other
    cases kind <;> cases other <;> decide
  rw [SameRequest, target_eq_iff fits suits sent asked, sent.addressed.1, asked.addressed.1,
    StoreRequest.pieces_eq_iff_alike kinds]

theorem alike_written_iff (plain : IsUnescaped request.key) (bare : IsUnescaped other.key) :
    StoreRequest.Alike (fun text => written text.toList) request other ↔ StoreRequest.Alike id request other := by
  have form {text title : String} (same : text = title) : written text.toList = written title.toList := by rw [same]
  exact ⟨fun alike => alike.of_form (fun same => String.toList_inj.mp (Target.percentEncode_injOn plain.1 bare.1 same))
    fun same => String.toList_inj.mp (Target.percentEncode_injOn plain.2 bare.2 same),
    fun alike => alike.of_form form form⟩

/-- Where texts have no slash, method and path tell what is done to which resource, as long as the path is as it was
put together. What is sent tells it if the texts are segments, up to their written forms, and these are one to one
for texts without an escape. -/
theorem addresses_alike (slashless : StoreRequest.IsSlashless request.key)
    (clear : StoreRequest.IsSlashless other.key) :
    (StoreRequest.SamePath request other ↔ StoreRequest.Alike id request other) ∧
    ∀ http likewise, Sends request http → Sends other likewise → FitsPath request.key → FitsPath other.key →
      (SameRequest http likewise ↔ StoreRequest.Alike (fun text => written text.toList) request other) ∧
      (IsUnescaped request.key → IsUnescaped other.key →
        (SameRequest http likewise ↔ StoreRequest.Alike id request other)) := by
  refine ⟨StoreRequest.samePath_iff_alike slashless clear, fun http likewise sent asked fits suits => ?_⟩
  have forms := sameRequest_iff_alike fits suits sent asked
  exact ⟨forms, fun plain bare => forms.trans (alike_written_iff plain bare)⟩

end Segments

section Overlaps

def claimNamed (name : String) : Claim where
  metadata := { key := ⟨"customer", name⟩, version := some "7" }
  spec := { legalEntity := ⟨"Example Corp", "entity-1"⟩ }
  status := {}

/-- An escape in a name reads like the blank that it stands for, once it is sent; the status has a path of its own. -/
theorem escaped_alike :
    ¬ StoreRequest.SamePath (.update (claimNamed "my claim")) (.update (claimNamed "my%20claim")) ∧
    ∃ plain escaped status,
      Sends (.update (claimNamed "my claim")) plain ∧ Sends (.update (claimNamed "my%20claim")) escaped ∧
      Sends (.updateStatus (claimNamed "my claim")) status ∧
      SameRequest plain escaped ∧ ¬ SameRequest plain status := by
  have sent (request : StoreRequest) (addressed : (Target.ofPath? request.path).isSome = true) :
      ∃ http, Sends request http := by
    obtain ⟨target, found⟩ := Option.isSome_iff_exists.mp addressed
    obtain ⟨body, sends⟩ := sends_of_target found
    exact ⟨_, sends⟩
  obtain ⟨plain, first⟩ := sent (.update (claimNamed "my claim")) (by decide +kernel)
  obtain ⟨escaped, second⟩ := sent (.update (claimNamed "my%20claim")) (by decide +kernel)
  obtain ⟨status, third⟩ := sent (.updateStatus (claimNamed "my claim")) (by decide +kernel)
  refine ⟨fun same => ?_, plain, escaped, status, first, second, third, ?_, ?_⟩
  · have alike := (addresses_alike (by decide) (by decide)).1.mp same
    exact absurd (alike.name (by decide)) (by decide)
  · refine ((addresses_alike (by decide) (by decide)).2 plain escaped first second (by decide) (by decide)).1.mpr ?_
    exact ⟨rfl, rfl, rfl, fun _ => by decide +kernel⟩
  · intro same
    have tells := (addresses_alike (by decide) (by decide)).2 plain status first third (by decide) (by decide)
    cases ((tells.2 (by decide) (by decide)).mp same).operation

/-- Method and path, as put together and as sent, tell the operation and the resource, for all requests with these
keys. -/
def TellsApart (keys : ObjectKey → Prop) : Prop :=
  ∀ request other http likewise, keys request.key → keys other.key → Sends request http → Sends other likewise →
    StoreRequest.SamePath request other → SameRequest http likewise → StoreRequest.Alike id request other

/-- With a slash in a name, an object has the path of the status of another one. -/
theorem samePath_of_suffix {kind : Kind} {object renamed : Object kind}
    (suffixed : renamed.key = ⟨object.key.space, object.key.name ++ "/status"⟩) :
    StoreRequest.SamePath (.update renamed) (.updateStatus object) := by
  refine ⟨rfl, ?_⟩
  simp [StoreRequest.path, statusPath, objectPath, suffixed, String.append_assoc]

theorem not_tellsApart_nonblank :
    ¬ TellsApart fun key => Text.isBlankText key.space = false ∧ Text.isBlankText key.name = false := by
  intro apart
  have addressed : Target.ofPath? (StoreRequest.updateStatus (claimNamed "my-claim")).path =
      some "/apis/gcp.managed.openshift.io/v1alpha1/namespaces/customer/projectclaims/my-claim/status" := by
    decide +kernel
  have same : StoreRequest.SamePath (.update (claimNamed "my-claim/status")) (.updateStatus (claimNamed "my-claim")) :=
    samePath_of_suffix (by decide)
  obtain ⟨body, sent⟩ := sends_of_target addressed
  obtain ⟨content, asked⟩ := sends_of_target ((congrArg Target.ofPath? same.2).trans addressed)
  have alike := apart _ _ _ _ (by decide) (by decide) asked sent same ⟨rfl, rfl⟩
  cases alike.operation

end Overlaps

end Cluster

end ClaimOperator

import ClaimOperator.Cluster.Exchange
import ClaimOperator.Cluster.Target
import ClaimOperator.Store.Port
import ClaimOperator.Store.Transaction

/-! The store behind an API server.

The server keeps the rules of an object's life itself. The client remembers the
last document seen of every object, and lays what it writes over that document,
so the fields of other clients survive. Every write is durable on its own; a unit
of work only scopes what is remembered.
-/

set_option autoImplicit false

namespace ClaimOperator.Cluster

def pluralName : Kind → String
  | .claim => "projectclaims"
  | .reference => "projectreferences"

def listPath (kind : Kind) (space : String) : String :=
  "/apis/" ++ Manifest.apiVersion ++ "/namespaces/" ++ space ++ "/" ++ pluralName kind

def objectPath (kind : Kind) (key : ObjectKey) : String := listPath kind key.space ++ "/" ++ key.name

def statusPath (kind : Kind) (key : ObjectKey) : String := objectPath kind key ++ "/status"

structure Sighting where
  kind : Kind
  key : ObjectKey
  document : Json

structure Client (σ : Type) where
  server : σ
  seen : List Sighting := []

instance {σ : Type} : Transactional (Client σ) where
  opened client := { client with seen := [] }
  rolledBack _ after := after

/-- What a remembered document offers to be written over. -/
inductive Foundation where
  | fields (fields : Json.Fields)
  | pairs (items : List Json)
  | text
  | scalar

/-- Documents without content count as empty, whatever their shape. -/
def Foundation.of : Json → Foundation
  | .null => fields []
  | .bool value => if value then scalar else fields []
  | .integer value => if value = 0 then fields [] else scalar
  | .real value => if value.isZero then fields [] else scalar
  | .string value => if value = "" then fields [] else text
  | .array items => pairs items
  | .object values => fields values

def keyText? : Json → Option String
  | .string value => some value
  | .null => some "null"
  | .bool value => some (if value then "true" else "false")
  | .integer value => some (Text.decimalInt value)
  | .real value => some (Json.realText value)
  | .array _ | .object _ => none

def parts? : Json → Option (List Json)
  | .string value => some (value.toList.map fun c => .string (String.ofList [c]))
  | .array items => some items
  | .object fields => some (fields.map fun (key, _) => .string key)
  | _ => none

def pairFields (position : Nat) (fields : Json.Fields) : List Json → Except BaseError Json.Fields
  | [] => .ok fields
  | item :: rest =>
    match parts? item with
    | none => .error .notPairs
    | some [name, value] =>
      match keyText? name with
      | some key => pairFields (position + 1) (fields.put key value) rest
      | none => .error .notPairs
    | some parts => .error (.wrongLength position parts.length)

def Foundation.toFields : Foundation → Except BaseError Json.Fields
  | fields values => .ok values
  | pairs items => pairFields 0 [] items
  | text => .error (.wrongLength 0 1)
  | scalar => .error .notPairs

mutual

/-- Whether a document can be written: infinite numbers cannot. -/
def isWritable : Json → Bool
  | .real (.finite ..) => true
  | .real _ => false
  | .array items => areWritable items
  | .object fields => haveWritableValues fields
  | _ => true

def areWritable : List Json → Bool
  | [] => true
  | item :: rest => isWritable item && areWritable rest

def haveWritableValues : List (String × Json) → Bool
  | [] => true
  | (_, value) :: rest => isWritable value && haveWritableValues rest

end

/-- The document that creates an object; the server gives out version and deletion time. -/
def creationDocument {kind : Kind} (object : Object kind) : Json :=
  Manifest.encode { object with
    metadata := { object.metadata with version := none, deletionTime := none } }

def refusal (method : Method) (status : Nat) : StoreError.Category :=
  if status = 404 then .notFound
  else if status = 409 then if method = .post then .alreadyExists else .conflict
  else .other

def judge (method : Method) (path : String) (kind : Kind) (key : ObjectKey) :
    HttpReply → Except Failure Body
  | .answered status body =>
    if isSuccess status then .ok body
    else .error (.store (.rejected (refusal method status) method.text kind key status body.explanation))
  | .unreachable detail => .error (.store (.unreachable method.text path kind key detail))
  | .unreadable => .error (.exchange .notJson)
  | .aborted cause => .error (.exchange (.aborted cause))

namespace Client

variable {σ : Type}

def remembered (client : Client σ) (kind : Kind) (key : ObjectKey) : Json :=
  match client.seen.find? fun sighting => sighting.kind = kind && sighting.key = key with
  | some sighting => sighting.document
  | none => .null

def remember (client : Client σ) (kind : Kind) (key : ObjectKey) (document : Json) : Client σ :=
  { client with
    seen := ⟨kind, key, document⟩ ::
      client.seen.filter fun sighting => !(sighting.kind = kind && sighting.key = key) }

/-- The document that writes an object: the object's own over what is remembered of it. -/
def draft {kind : Kind} (client : Client σ) (object : Object kind) : Except Failure Json := do
  let fields ← (Foundation.of (client.remembered kind object.key)).toFields.mapError Failure.base
  return .object (Json.overlayFields fields (Manifest.encodeFields object))

def exchange (server : Server σ) (method : Method) (path : String) (kind : Kind) (key : ObjectKey)
    (body : Option Json) (client : Client σ) : Except Failure Body × Client σ :=
  match Target.ofPath? path with
  | none => (.error (.exchange .invalidTarget), client)
  | some target =>
    if (body.map isWritable).getD true then
      let (reply, state) := server ⟨method, target, body⟩ client.server
      (judge method path kind key reply, { client with server := state })
    else (.error (.exchange .unwritableNumber), client)

-- The document is remembered before it is read: one that holds no valid object is still
-- what the next write is laid over.
def receive (kind : Kind) (key : ObjectKey) (body : Body) (client : Client σ) :
    Except Failure (Object kind) × Client σ :=
  match body.json? with
  | none => (.error (.exchange .notJson), client)
  | some document =>
    ((Manifest.decode kind document).mapError Failure.manifest, client.remember kind key document)

def fetch (server : Server σ) (method : Method) (path : String) (kind : Kind) (key : ObjectKey)
    (body : Option Json) (client : Client σ) : Except Failure (Object kind) × Client σ :=
  match client.exchange server method path kind key body with
  | (.ok body, client) => client.receive kind key body
  | (.error failure, client) => (.error failure, client)

/-- A write is answered with the version of the object in the answer. -/
def write {kind : Kind} (server : Server σ) (method : Method) (path : String) (object : Object kind)
    (body : Except Failure Json) (client : Client σ) : Except Failure (Option String) × Client σ :=
  match body with
  | .error failure => (.error failure, client)
  | .ok body =>
    let (answer, client) := client.fetch server method path kind object.key (some body)
    (answer.map (·.metadata.version), client)

def remove (server : Server σ) (kind : Kind) (key : ObjectKey) (client : Client σ) :
    Except Failure Unit × Client σ :=
  let (answer, client) := client.exchange server .delete (objectPath kind key) kind key none
  (answer.map fun _ => (), client)

open Procedure

def port (server : Server σ) : Port (Client σ) where
  get kind key client := client.fetch server .get (objectPath kind key) kind key none
  create kind := stamped fun object client =>
    client.write server .post (listPath kind object.key.space) object (.ok (creationDocument object))
  update kind := stamped fun object client =>
    client.write server .put (objectPath kind object.key) object (client.draft object)
  updateStatus kind := stamped fun object client =>
    client.write server .put (statusPath kind object.key) object (client.draft object)
  delete kind _ := onStore fun object client => client.remove server kind object.key

def serve (server : Server σ) : Service (Client σ) := (port server).service

section Served

variable {kind : Kind} (server : Server σ) (object : Object kind) (now : Timestamp) (client : Client σ)

theorem serve_get (key : ObjectKey) :
    serve server (.get kind key) now client = client.fetch server .get (objectPath kind key) kind key none := by
  simp only [serve, Port.service, Port.call, port]

theorem serve_create :
    serve server (.create object) now client =
      client.write server .post (listPath kind object.key.space) object (.ok (creationDocument object)) :=
  (port server).service_create object now client rfl

theorem serve_update :
    serve server (.update object) now client =
      client.write server .put (objectPath kind object.key) object (client.draft object) :=
  (port server).service_update object now client rfl

theorem serve_updateStatus :
    serve server (.updateStatus object) now client =
      client.write server .put (statusPath kind object.key) object (client.draft object) :=
  (port server).service_updateStatus object now client rfl

theorem serve_delete :
    serve server (.delete object) now client = client.remove server kind object.key := by
  simp only [serve, Port.service, Port.call, port, onStore]

end Served

end Client

end ClaimOperator.Cluster

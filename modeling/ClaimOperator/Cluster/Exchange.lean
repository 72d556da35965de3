import ClaimOperator.Json.Display
import ClaimOperator.Json.Printer
import ClaimOperator.Json.Reader
import ClaimOperator.Resource.Key

/-! Exchanges with an API server: one request, one reply. -/

set_option autoImplicit false

namespace ClaimOperator.Cluster

inductive Method where
  | get
  | post
  | put
  | delete
  deriving DecidableEq, Repr

def Method.text : Method → String
  | get => "GET"
  | post => "POST"
  | put => "PUT"
  | delete => "DELETE"

structure HttpRequest where
  method : Method
  target : String
  body : Option Json := none
  deriving DecidableEq

inductive Body where
  | document (value : Json)
  | text (content : String)
  deriving DecidableEq

namespace Body

def toText : Body → String
  | document value => value.compact
  | text content => content

/-- A byte order mark in front of a document is not part of it. -/
def withoutMark (content : String) : String :=
  match content.toList with
  | '\uFEFF' :: rest => String.ofList rest
  | _ => content

def json? : Body → Option Json
  | document value => some value
  | text content => Json.read? (withoutMark content)

/-- What an answer says about its failure: the message of a status document, or else its whole text. -/
def explanation (body : Body) : String :=
  match body.json?.bind (·.field? "message") with
  | some message => message.display
  | none => body.toText

end Body

/-- How an exchange ends: with an answer, without one because the connection failed or because the
request holds no document to read, or given up by the client for a named cause. -/
inductive HttpReply where
  | answered (status : Nat) (body : Body)
  | unreachable (detail : String)
  | unreadable
  | aborted (cause : String)

namespace HttpReply

def connectionFaults : List String :=
  ["TransportError", "TimeoutException", "ConnectTimeout", "ReadTimeout", "WriteTimeout", "PoolTimeout",
    "NetworkError", "ConnectError", "ReadError", "WriteError", "CloseError", "ProtocolError",
    "LocalProtocolError", "RemoteProtocolError", "ProxyError", "UnsupportedProtocol"]

def ofFault (name detail : String) : HttpReply :=
  if connectionFaults.contains name then unreachable detail else aborted name

end HttpReply

def isSuccess (status : Nat) : Bool := 200 ≤ status && status < 300

abbrev Server (σ : Type) := HttpRequest → σ → HttpReply × σ

end ClaimOperator.Cluster

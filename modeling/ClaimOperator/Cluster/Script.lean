import ClaimOperator.Cluster.Exchange

/-! A server that answers from a queue and keeps the requests it was sent. -/

set_option autoImplicit false

namespace ClaimOperator.Cluster

/-- A prepared reply: one that is fixed, or the request's own document under a new version. -/
inductive PreparedReply where
  | fixed (reply : HttpReply)
  | echo (version : Json) (status : Nat)

namespace PreparedReply

def stampVersion (version : Json) (document : Json) : Json :=
  match document, document.field? "metadata" with
  | .object fields, some (.object metadata) =>
    .object (Json.Fields.put fields "metadata" (.object (Json.Fields.put metadata "resourceVersion" version)))
  | _, _ => document

def replyTo (prepared : PreparedReply) (request : HttpRequest) : HttpReply :=
  match prepared, request.body with
  | fixed reply, _ => reply
  | echo version status, some document => .answered status (.document (stampVersion version document))
  | echo .., none => .unreadable

end PreparedReply

structure Script where
  queue : List PreparedReply := []
  requests : List HttpRequest := []

namespace Script

def enqueue (script : Script) (replies : List PreparedReply) : Script :=
  { script with queue := script.queue ++ replies }

def answer : Server Script := fun request script =>
  let requests := script.requests ++ [request]
  match script.queue with
  | [] => (.unreachable "no response queued", ⟨[], requests⟩)
  | prepared :: rest => (prepared.replyTo request, ⟨rest, requests⟩)

end Script

end ClaimOperator.Cluster

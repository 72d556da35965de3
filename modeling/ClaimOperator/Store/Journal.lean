import ClaimOperator.Store.Service

/-! A journal of the requests that reach a store, in order, whatever their outcome. -/

set_option autoImplicit false

namespace ClaimOperator

structure JournalEntry where
  operation : StoreOperation
  kind : Kind
  key : ObjectKey
  deriving DecidableEq, Repr

def JournalEntry.text (call : JournalEntry) : String :=
  call.operation.text ++ " " ++ call.kind.text ++ " " ++ call.key.text

def StoreRequest.call (request : StoreRequest) : JournalEntry :=
  ⟨request.operation, request.kind, request.key⟩

structure Journaled (σ : Type) where
  store : σ
  calls : List JournalEntry := []

def Service.journaled {σ : Type} (serve : Service σ) : Service (Journaled σ) := fun request now state =>
  let (answer, store) := serve request now state.store
  (answer, ⟨store, state.calls ++ [request.call]⟩)

end ClaimOperator

import ClaimOperator.Store.Faults
import ClaimOperator.Store.Journal
import ClaimOperator.Store.Rows
import ClaimOperator.Store.Tables

/-! Units of work: an action on a store whose writes are kept or dropped as a whole.

The action ends with a verdict, which says whether to commit. A store says what
opening a unit of work changes, and what a rollback takes back; a store in memory
takes nothing back.
-/

set_option autoImplicit false

namespace ClaimOperator

/-- How an action ends: with its outcome, and with the decision whether its writes are kept. -/
structure Verdict (α : Type) where
  outcome : Except Failure α
  commits : Bool

class Transactional (σ : Type) where
  opened : σ → σ
  rolledBack : (before after : σ) → σ

instance : Transactional Tables := ⟨id, fun _ after => after⟩

instance : Transactional Rows.Connection := ⟨id, fun before after => { after with rows := before.rows }⟩

instance {σ : Type} [Transactional σ] : Transactional (Faulty σ) where
  opened state := { state with store := Transactional.opened state.store }
  rolledBack before after := { after with store := Transactional.rolledBack before.store after.store }

instance {σ : Type} [Transactional σ] : Transactional (Journaled σ) where
  opened state := { state with store := Transactional.opened state.store }
  rolledBack before after := { after with store := Transactional.rolledBack before.store after.store }

/-- Every request in a unit of work of its own: committed if it succeeds, else rolled back. -/
def Service.writeThrough {σ : Type} [Transactional σ] (serve : Service σ) : Service σ :=
  fun request now before =>
    let (answer, after) := serve request now before
    match answer with
    | .ok answer => (.ok answer, after)
    | .error failure => (.error failure, Transactional.rolledBack before after)

structure Session (σ : Type) where
  store : σ
  log : List Log.Entry := []
  commits : Nat := 0

namespace Session

variable {σ α : Type} [Transactional σ]

def note (session : Session σ) (level : Log.Level) (channel : Log.Channel) (message : String) : Session σ :=
  { session with log := session.log ++ [⟨level, channel, message⟩] }

def transact (serve : Service σ) (now : Timestamp) (work : Action (Verdict α)) (session : Session σ) :
    Except Failure α × Session σ :=
  let opened := Transactional.opened session.store
  let (verdict, after) := work.run (serve.handler now) ⟨opened, session.log⟩
  if verdict.commits then (verdict.outcome, ⟨after.store, after.log, session.commits + 1⟩)
  else (verdict.outcome, ⟨Transactional.rolledBack opened after.store, after.log, session.commits⟩)

end Session

end ClaimOperator

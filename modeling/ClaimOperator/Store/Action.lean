import ClaimOperator.Store.Failure

/-! Actions: what is asked of a store, of the clock and of the log, as a value.

An action is a finite tree. Each node asks for one effect and has a branch for
every answer, so nothing about a store is fixed here: the same action runs against
any of them, call by call if need be, with faults or other writers in between.
-/

set_option autoImplicit false

namespace ClaimOperator

inductive StoreRequest where
  | get (kind : Kind) (key : ObjectKey)
  | create {kind : Kind} (object : Object kind)
  | update {kind : Kind} (object : Object kind)
  | updateStatus {kind : Kind} (object : Object kind)
  | delete {kind : Kind} (object : Object kind)

namespace StoreRequest

/-- A read is answered with an object, a write with the version that the written object now has. -/
@[reducible] def Answer : StoreRequest → Type
  | get kind _ => Object kind
  | create _ | update _ | updateStatus _ => Option String
  | delete _ => Unit

def operation : StoreRequest → StoreOperation
  | get .. => .get
  | create _ => .create
  | update _ => .update
  | updateStatus _ => .updateStatus
  | delete _ => .delete

def kind : StoreRequest → Kind
  | get kind _ => kind
  | @create kind _ | @update kind _ | @updateStatus kind _ | @delete kind _ => kind

def key : StoreRequest → ObjectKey
  | get _ key => key
  | create object | update object | updateStatus object | delete object => object.key

def on {kind : Kind} (operation : StoreOperation) (object : Object kind) : StoreRequest :=
  match operation with
  | .get => get kind object.key
  | .create => create object
  | .update => update object
  | .updateStatus => updateStatus object
  | .delete => delete object

/-- What whoever asked holds afterwards: the object that was read, or the one that was written, under
the version that it has now. -/
def held : (request : StoreRequest) → request.Answer → AnyObject
  | get kind _, object => ⟨kind, object⟩
  | create object, version | update object, version | updateStatus object, version =>
    ⟨_, object.withVersion version⟩
  | delete object, () => ⟨_, object⟩

end StoreRequest

namespace Log

inductive Level where
  | debug
  | info
  | warning
  | error
  deriving DecidableEq, Repr

/-- Levels are numbered in tens, so that a threshold may lie between two of them. -/
def Level.number : Level → Int
  | debug => 10
  | info => 20
  | warning => 30
  | error => 40

inductive Channel where
  | application
  | reconcile
  | tables
  | commandLine
  deriving DecidableEq, Repr

structure Entry where
  level : Level
  channel : Channel
  message : String
  deriving DecidableEq, Repr

end Log

inductive Effect where
  | ask (request : StoreRequest)
  | clock
  | note (entry : Log.Entry)

@[reducible] def Effect.Answer : Effect → Type
  | ask request => Except Failure request.Answer
  | clock => Timestamp
  | note _ => Unit

inductive Action (α : Type) : Type where
  | done (value : α)
  | perform (effect : Effect) (next : effect.Answer → Action α)

namespace Action

variable {α β γ : Type}

protected def bind (action : Action α) (rest : α → Action β) : Action β :=
  match action with
  | done value => rest value
  | perform effect next => perform effect fun answer => (next answer).bind rest

instance : Monad Action where
  pure := done
  bind := Action.bind

@[simp] theorem done_bind (value : α) (rest : α → Action β) : (done value >>= rest) = rest value := rfl

@[simp] theorem perform_bind (effect : Effect) (next : effect.Answer → Action α) (rest : α → Action β) :
    (perform effect next >>= rest) = perform effect fun answer => next answer >>= rest := rfl

theorem bind_done (action : Action α) : (action >>= done) = action := by
  induction action with
  | done value => rfl
  | perform effect next ih => simp only [perform_bind, ih]

theorem bind_assoc (action : Action α) (first : α → Action β) (second : β → Action γ) :
    ((action >>= first) >>= second) = (action >>= fun value => first value >>= second) := by
  induction action with
  | done value => rfl
  | perform effect next ih => simp only [perform_bind, ih]

instance : LawfulMonad Action :=
  LawfulMonad.mk' Action (fun action => bind_done action) (fun _ _ => rfl) bind_assoc

def ask (request : StoreRequest) : Action (Except Failure request.Answer) := perform (.ask request) done

def clock : Action Timestamp := perform .clock done

def note (level : Log.Level) (channel : Log.Channel) (message : String) : Action Unit :=
  perform (.note ⟨level, channel, message⟩) done

end Action

abbrev Handler (σ : Type) := (effect : Effect) → σ → effect.Answer × σ

namespace Action

variable {σ α β : Type}

def run (handle : Handler σ) : Action α → σ → α × σ
  | done value, state => (value, state)
  | perform effect next, state =>
    let (answer, state) := handle effect state
    (next answer).run handle state

theorem run_bind (handle : Handler σ) (action : Action α) (rest : α → Action β) (state : σ) :
    (action >>= rest).run handle state =
      let (value, state) := action.run handle state
      (rest value).run handle state := by
  induction action generalizing state with
  | done value => rfl
  | perform effect next ih => exact ih _ _

end Action

end ClaimOperator

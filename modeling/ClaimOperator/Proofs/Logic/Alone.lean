import ClaimOperator.Proofs.Logic.Operations
import ClaimOperator.Proofs.Store.LocalStore

/-! A local store with no other writer, whose requests may be made to fail.

A request either reaches the store, which answers by the shared rules, or fails before
with an injected error. What an action ensures about the contents under this regime
holds for its runs on any local store and any plan of failures, and what its requests
keep holds after every part of a run.
-/

set_option autoImplicit false

namespace ClaimOperator

def Regime.alone (injected : StoreError → Prop) (keeps : Contents → Prop) : Regime Contents where
  answers request met answer left :=
    (∃ fresh now, (answer, left) = met.serve fresh now request) ∨
      ∃ error, injected error ∧ answer = .error (.store error) ∧ left = met
  drift := Eq
  keeps _ left := keeps left

variable {injected : StoreError → Prop} {keeps : Contents → Prop}

theorem Action.ensures_ask_alone (request : StoreRequest) {post : Except Failure request.Answer → Contents → Prop}
    {contents : Contents} :
    (Action.ask request).Ensures (.alone injected keeps) post contents ↔
      (∀ fresh now, keeps (contents.serve fresh now request).2 ∧
        post (contents.serve fresh now request).1 (contents.serve fresh now request).2) ∧
      ∀ error, injected error → keeps contents ∧ post (.error (.store error)) contents := by
  rw [Action.ensures_ask]
  constructor
  · intro ensures
    exact ⟨fun fresh now => ensures contents rfl _ _ (.inl ⟨fresh, now, rfl⟩),
      fun error injects => ensures contents rfl _ _ (.inr ⟨error, injects, rfl, rfl⟩)⟩
  · rintro ⟨served, failed⟩ met rfl answer left (⟨fresh, now, same⟩ | ⟨error, injects, rfl, rfl⟩)
    · rw [Prod.mk.injEq] at same
      obtain ⟨rfl, rfl⟩ := same
      exact served fresh now
    · exact failed error injects

theorem Operation.ensures_ask_alone (request : StoreRequest)
    {post : Except Failure request.Answer → Pairing → Contents → Prop} {pairing : Pairing} {contents : Contents} :
    Operation.Ensures (.alone injected keeps) post (.ask request) pairing contents ↔
      (∀ fresh now, keeps (contents.serve fresh now request).2 ∧
        post (contents.serve fresh now request).1 pairing (contents.serve fresh now request).2) ∧
      ∀ error, injected error → keeps contents ∧ post (.error (.store error)) pairing contents :=
  Operation.ensures_ask.trans (Action.ensures_ask.symm.trans (Action.ensures_ask_alone request))

theorem Action.Ensures.keeping {α : Type} {weaker : Contents → Prop} {post : α → Contents → Prop} {action : Action α}
    {contents : Contents} (ensures : action.Ensures (.alone injected keeps) post contents)
    (weakens : ∀ contents, keeps contents → weaker contents) :
    action.Ensures (.alone injected weaker) post contents := by
  induction action generalizing contents with
  | done value => exact ensures
  | perform effect next ih =>
    cases effect with
    | ask request =>
      intro met drifted answer left answered
      obtain ⟨kept, later⟩ := ensures met drifted answer left answered
      exact ⟨weakens left kept, ih answer later⟩
    | clock => exact fun now => ih now (ensures now)
    | note entry => exact ih () ensures

namespace Action

variable {σ α : Type}

/-- What is left of an action after so many of its effects, and the state then. -/
def advance (handle : Handler σ) : (effects : Nat) → Action α → σ → Action α × σ
  | 0, action, state => (action, state)
  | _ + 1, done value, state => (done value, state)
  | effects + 1, perform effect next, state =>
    let (answer, state) := handle effect state
    advance handle effects (next answer) state

variable [LocalStore σ]

abbrev scheduledHandler (now : Timestamp) : Handler (Logged (Scheduled σ)) :=
  (Service.scheduled LocalStore.serve).handler now

def Injects (injected : StoreError → Prop) (plan : List (Option StoreError)) : Prop :=
  ∀ error, some error ∈ plan → injected error

theorem scheduled_answers (keeps : Contents → Prop) {state : Scheduled σ} (quiet : LocalStore.Quiet state.store)
    (injects : Injects injected state.plan) (request : StoreRequest) (now : Timestamp) :
    let (answer, after) := Service.scheduled LocalStore.serve request now state
    (Regime.alone injected keeps).answers request (LocalStore.contents state.store) answer
        (LocalStore.contents after.store) ∧
      LocalStore.Quiet after.store ∧ Injects injected after.plan := by
  obtain ⟨store, plan⟩ := state
  obtain ⟨after, fresh, served⟩ := LocalStore.serves quiet request now
  unfold Service.scheduled
  cases plan with
  | nil => exact ⟨.inl ⟨fresh, now, served⟩, after, nofun⟩
  | cons entry rest =>
    have later : Injects injected rest := fun error member => injects error (List.mem_cons_of_mem _ member)
    cases entry with
    | none => exact ⟨.inl ⟨fresh, now, served⟩, after, later⟩
    | some error => exact ⟨.inr ⟨error, injects error List.mem_cons_self, rfl, rfl⟩, quiet, later⟩

theorem Ensures.run {post : α → Contents → Prop} {action : Action α} {state : Logged (Scheduled σ)}
    (ensures : action.Ensures (.alone injected keeps) post (LocalStore.contents state.store.store))
    (quiet : LocalStore.Quiet state.store.store) (injects : Injects injected state.store.plan) (now : Timestamp) :
    let (value, after) := action.run (scheduledHandler now) state
    LocalStore.Quiet after.store.store ∧ post value (LocalStore.contents after.store.store) := by
  induction action generalizing state with
  | done value => exact ⟨quiet, ensures⟩
  | perform effect next ih =>
    cases effect with
    | ask request =>
      obtain ⟨answers, quiet', injects'⟩ := scheduled_answers keeps quiet injects request now
      exact ih _ (ensures _ rfl _ _ answers).2 quiet' injects'
    | clock => exact ih now (ensures now) quiet injects
    | note entry => exact ih () ensures quiet injects

theorem Ensures.keeps_advance {post : α → Contents → Prop} {action : Action α} {state : Logged (Scheduled σ)}
    (ensures : action.Ensures (.alone injected keeps) post (LocalStore.contents state.store.store))
    (kept : keeps (LocalStore.contents state.store.store)) (quiet : LocalStore.Quiet state.store.store)
    (injects : Injects injected state.store.plan) (now : Timestamp) (effects : Nat) :
    keeps (LocalStore.contents (action.advance (scheduledHandler now) effects state).2.store.store) := by
  -- The induction is on the effects, since the run may be looked at between any two of them.
  induction effects generalizing action state with
  | zero => exact kept
  | succ effects ih =>
    cases action with
    | done value => exact kept
    | perform effect next =>
      cases effect with
      | ask request =>
        obtain ⟨answers, quiet', injects'⟩ := scheduled_answers keeps quiet injects request now
        obtain ⟨kept', later⟩ := ensures _ rfl _ _ answers
        exact ih later kept' quiet' injects'
      | clock => exact ih (ensures now) kept quiet injects
      | note entry => exact ih ensures kept quiet injects

end Action

end ClaimOperator

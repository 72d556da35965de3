import ClaimOperator.Proofs.Store.Counting
import ClaimOperator.Proofs.Store.Twins
import Mathlib.Data.List.Induction

/-! The two local stores side by side.

Clients ask the same of either store, but the versions are the store's own: a client who
writes under a version writes under the one that it saw, wherever it is. As long as it saw it
since the object that is stored now was created, nobody can tell the two stores apart but by
the versions, and these rise together.
-/

set_option autoImplicit false

namespace ClaimOperator

namespace Version

/-- Two versions are the same in both stores, or the first comes before the second in both. -/
def InStep (earlier later earlier' later' : Option String) : Prop :=
  earlier = later ∧ earlier' = later' ∨ Precedes earlier later ∧ Precedes earlier' later'

variable {first second third first' second' third' : Option String}

theorem InStep.trans (before : InStep first second first' second') (after : InStep second third second' third') :
    InStep first third first' third' := by
  obtain ⟨rfl, rfl⟩ | ⟨below, below'⟩ := before
  · exact after
  · obtain ⟨rfl, rfl⟩ | ⟨above, above'⟩ := after
    · exact .inr ⟨below, below'⟩
    · exact .inr ⟨below.trans above, below'.trans above'⟩

theorem InStep.eq_iff (step : InStep first second first' second') : first = second ↔ first' = second' := by
  obtain ⟨same, same'⟩ | ⟨below, below'⟩ := step
  · simp [same, same']
  · simp [below.ne, below'.ne]

end Version

theorem Entry.Moves.inStep {kind : Kind} {fresh fresh' : String} {entry entry' after after' : Entry kind}
    (moves : Moves fresh fresh' entry entry' after after') (present : after ≠ none)
    (below : Version.Precedes (entry.bind (·.metadata.version)) (some fresh))
    (below' : Version.Precedes (entry'.bind (·.metadata.version)) (some fresh')) :
    Version.InStep (entry.bind (·.metadata.version)) (after.bind (·.metadata.version))
      (entry'.bind (·.metadata.version)) (after'.bind (·.metadata.version)) := by
  cases moves with
  | stays => exact .inl ⟨rfl, rfl⟩
  | leaves => exact absurd rfl present
  | comes object => exact .inr ⟨below, below'⟩

/-- A request at some time, under no version or under the one that its client saw at some moment. -/
structure Ask where
  request : StoreRequest
  now : Timestamp
  seen : Option Nat := none

abbrev Script := List Ask

section Definitions

variable (σ : Type) [LocalStore σ]

def Ask.version (ask : Ask) (history : History) : Option String :=
  ask.seen.bind fun moment => history.versionAt σ moment ask.request.kind ask.request.key

def Ask.call (ask : Ask) (history : History) : Call := ⟨ask.request.withVersion (ask.version σ history), ask.now⟩

namespace Script

def played (script : Script) : History := script.foldl (fun history ask => history ++ [ask.call σ history]) []

abbrev recorded (script : Script) (moment : Nat) : Contents := (script.played σ).recorded σ moment

abbrev versionAt (script : Script) (moment : Nat) (kind : Kind) (key : ObjectKey) : Option String :=
  (script.played σ).versionAt σ moment kind key

abbrev Held (script : Script) (earlier later : Nat) (kind : Kind) (key : ObjectKey) : Prop :=
  (script.played σ).Held σ earlier later kind key

end Script

end Definitions

namespace Script

/-- Whoever writes under a version over an object saw it since that object was created. -/
def Current (script : Script) : Prop :=
  ∀ {place ask seen}, script[place]? = some ask → ask.request.isConditional = true → ask.seen = some seen →
    script.recorded Tables place ask.request.kind ask.request.key = none ∨
      seen ≤ place ∧ script.Held Tables seen place ask.request.kind ask.request.key

/-- What a script comes to on both stores, in memory and in a table of rows. -/
structure Agrees (script : Script) : Prop where
  ends : ∀ {place ask}, script[place]? = some ask → ∃ version version' answer answer',
    (script.played Tables).Replies Tables place (ask.request.withVersion version) answer ∧
      (script.played Rows.Connection).Replies Rows.Connection place (ask.request.withVersion version') answer' ∧
      EndAlike (ask.request.AnswersAlike version version') answer answer'
  stored : ∀ moment, Contents.Twins (script.recorded Tables moment) (script.recorded Rows.Connection moment)
  stampsInMemory : ∀ {place request answer version}, (script.played Tables).Replies Tables place request answer →
    request.answered answer = some version →
    script.versionAt Tables (place + 1) request.kind request.key = some version
  stampsInRows : ∀ {place request answer version},
    (script.played Rows.Connection).Replies Rows.Connection place request answer →
    request.answered answer = some version →
    script.versionAt Rows.Connection (place + 1) request.kind request.key = some version
  oneToOne : ∀ {earlier later kind key}, earlier ≤ later → script.Held Tables earlier later kind key →
    (script.versionAt Tables earlier kind key = script.versionAt Tables later kind key ↔
      script.versionAt Rows.Connection earlier kind key = script.versionAt Rows.Connection later kind key)
  ordered : ∀ {earlier later kind key}, earlier ≤ later → script.Held Tables earlier later kind key →
    Version.InStep (script.versionAt Tables earlier kind key)
      (script.versionAt Tables later kind key)
      (script.versionAt Rows.Connection earlier kind key)
      (script.versionAt Rows.Connection later kind key)

section Played

variable {σ : Type} [LocalStore σ] {script : Script}

theorem played_append (script : Script) (ask : Ask) :
    played σ (script ++ [ask]) = script.played σ ++ [ask.call σ (script.played σ)] := by
  simp [played]

@[simp] theorem length_played (script : Script) : (script.played σ).length = script.length := by
  induction script using List.reverseRecOn with
  | nil => rfl
  | append_singleton script ask ih => simp [played_append, ih]

theorem getElem?_played {place : Nat} {ask : Ask} (here : script[place]? = some ask) :
    (script.played σ)[place]? = some (ask.call σ ((script.played σ).take place)) := by
  induction script using List.reverseRecOn with
  | nil => cases here
  | append_singleton script last ih =>
    rw [played_append]
    have length : (Script.played σ script).length = script.length := length_played script
    obtain earlier | rfl | later := Nat.lt_trichotomy place script.length
    · rw [List.getElem?_append_left earlier] at here
      rw [List.getElem?_append_left (by omega), List.take_append_of_le_length (by omega)]
      exact ih here
    · simp only [List.getElem?_concat_length, Option.some.injEq] at here
      subst here
      rw [← length, List.getElem?_concat_length, List.take_left']
      rfl
    · rw [List.getElem?_eq_none (by simp; omega)] at here
      cases here

end Played

section Steps

variable {script : Script} {place : Nat}

/-- The two stores at a moment: the same objects, under versions that have risen together. -/
structure Level (script : Script) (moment : Nat) : Prop where
  stored : Contents.Twins (script.recorded Tables moment)
    (script.recorded Rows.Connection moment)
  ordered : ∀ {earlier kind key}, earlier ≤ moment → script.Held Tables earlier moment kind key →
    Version.InStep (script.versionAt Tables earlier kind key)
      (script.versionAt Tables moment kind key)
      (script.versionAt Rows.Connection earlier kind key)
      (script.versionAt Rows.Connection moment kind key)

theorem Level.start (script : Script) : script.Level 0 where
  stored kind key := by
    have memory : script.recorded Tables 0 = Contents.empty := LocalStore.contents_empty
    have rows : script.recorded Rows.Connection 0 = Contents.empty :=
      LocalStore.contents_empty
    rw [memory, rows]
    exact .absent
  ordered {earlier kind key} order _ := by
    obtain rfl := Nat.le_zero.mp order
    exact .inl ⟨rfl, rfl⟩

theorem version_take (σ : Type) [Counting σ] {ask : Ask} {seen : Nat} (order : seen ≤ place)
    (sees : ask.seen = some seen) (history : History) :
    ask.version σ (history.take place) = history.versionAt σ seen ask.request.kind ask.request.key := by
  simp [Ask.version, sees, History.versionAt, History.recorded_take order]

theorem Level.matched (level : script.Level place) (current : script.Current) {ask : Ask}
    (here : script[place]? = some ask) (conditional : ask.request.isConditional = true) :
    Entry.Matched (ask.version Tables ((script.played Tables).take place))
      (ask.version Rows.Connection ((script.played Rows.Connection).take place))
      (script.recorded Tables place ask.request.kind ask.request.key)
      (script.recorded Rows.Connection place ask.request.kind ask.request.key) := by
  intro stored stored' found found'
  cases sees : ask.seen with
  | none => simp [Ask.version, sees]
  | some seen =>
    obtain absent | ⟨order, held⟩ := current here conditional sees
    · cases found.symm.trans absent
    · have step := level.ordered order held
      rw [version_take Tables order sees, version_take Rows.Connection order sees,
        ← History.versionAt_of_found found, ← History.versionAt_of_found found']
      obtain ⟨same, same'⟩ | ⟨below, below'⟩ := step
      · simp [same, same']
      · simp [below.ne, below.ne_none, below'.ne, below'.ne_none]

def Moves (script : Script) (place : Nat) : Prop :=
  ∀ kind key, Entry.Moves ((script.played Tables).fresh Tables place kind key)
    ((script.played Rows.Connection).fresh Rows.Connection place kind key)
    (script.recorded Tables place kind key) (script.recorded Rows.Connection place kind key)
    (script.recorded Tables (place + 1) kind key) (script.recorded Rows.Connection (place + 1) kind key)

theorem Level.serve (level : script.Level place) (current : script.Current) {ask : Ask}
    (here : script[place]? = some ask) : (∃ version version' answer answer',
      (script.played Tables).Replies Tables place (ask.request.withVersion version) answer ∧
      (script.played Rows.Connection).Replies Rows.Connection place (ask.request.withVersion version') answer' ∧
      EndAlike (ask.request.AnswersAlike version version') answer answer') ∧ script.Moves place := by
  have memory : (script.played Tables)[place]? = some _ := getElem?_played here
  have rows : (script.played Rows.Connection)[place]? = some _ := getElem?_played here
  have served := History.serve_recorded (σ := Tables) memory
  have served' := History.serve_recorded (σ := Rows.Connection) rows
  simp only [StoreRequest.kind_withVersion, StoreRequest.key_withVersion] at served served'
  obtain ⟨ends, move⟩ := Contents.serve_alike
    ((script.played Tables).fresh Tables place ask.request.kind ask.request.key)
    ((script.played Rows.Connection).fresh Rows.Connection place ask.request.kind ask.request.key) ask.now
    level.stored ask.request (level.matched current here)
  rw [served, served'] at ends
  rw [served, served'] at move
  exact ⟨⟨_, _, _, _, ⟨ask.now, memory, rfl⟩, ⟨ask.now, rows, rfl⟩, ends⟩, move.moves _ _⟩

/-- The step of a level: what comes under a new version comes under a higher one in both stores. -/
theorem Level.next (level : script.Level place) (moves : script.Moves place) : script.Level (place + 1) where
  stored kind key := by
    have twin := level.stored kind key
    have move := moves kind key
    revert move
    generalize script.recorded Tables (place + 1) kind key = entry
    generalize script.recorded Rows.Connection (place + 1) kind key = entry'
    rintro (_ | _ | object)
    · exact twin
    · exact .absent
    · exact .withVersion object _ _
  ordered {earlier kind key} order held := by
    obtain rfl | before := Nat.eq_or_lt_of_le order
    · exact .inl ⟨rfl, rfl⟩
    have rest := level.ordered (Nat.le_of_lt_succ before) (held.until (Nat.le_succ place))
    have present := held place (Nat.le_of_lt_succ before) (Nat.le_succ place)
    have present' : script.recorded Rows.Connection place kind key ≠ none := (level.stored kind key).ne_none present
    exact rest.trans ((moves kind key).inStep (held (place + 1) order (Nat.le_refl _))
      (History.precedes_fresh present) (History.precedes_fresh present'))

theorem level (current : script.Current) (moment : Nat) : script.Level moment := by
  induction moment with
  | zero => exact .start script
  | succ moment ih =>
    cases here : script[moment]? with
    | some ask => exact ih.next (ih.serve current here).2
    -- Once the script is over nothing moves.
    | none =>
      refine ih.next fun kind key => ?_
      have ended : ∀ (σ : Type) [LocalStore σ], (script.played σ)[moment]? = none := fun σ _ =>
        List.getElem?_eq_none (by rw [length_played]; exact List.getElem?_eq_none_iff.mp here)
      have memory : script.recorded Tables (moment + 1) = script.recorded Tables moment :=
        congrArg LocalStore.contents (History.reached_succ_of_ended (ended Tables))
      have rows : script.recorded Rows.Connection (moment + 1) = script.recorded Rows.Connection moment :=
        congrArg LocalStore.contents (History.reached_succ_of_ended (ended Rows.Connection))
      rw [memory, rows]
      exact .stays

end Steps

/-- The table of rows does what the store in memory does, under versions of its own. -/
theorem agrees_of_current {script : Script} (current : script.Current) : script.Agrees where
  ends here := ((script.level current _).serve current here).1
  stored moment := (script.level current moment).stored
  stampsInMemory := History.versionAt_of_answered
  stampsInRows := History.versionAt_of_answered
  oneToOne order held := ((script.level current _).ordered order held).eq_iff
  ordered order held := (script.level current _).ordered order held

def rebuilt : Script :=
  let claim : Claim :=
    { metadata := { key := ⟨"customer", "my-claim"⟩ }, spec := { legalEntity := default }, status := {} }
  [{ request := .create claim, now := .epoch }, { request := .update claim, now := .epoch, seen := some 1 },
    { request := .delete claim, now := .epoch, seen := some 1 }, { request := .create claim, now := .epoch },
    { request := .updateStatus claim, now := .epoch, seen := some 4 }]

theorem agrees_rebuilt : rebuilt.Current ∧ rebuilt.Agrees := by
  have key : ∀ moment, rebuilt.recorded Tables moment .claim ⟨"customer", "my-claim"⟩ ≠ none →
      rebuilt.Held Tables moment moment .claim ⟨"customer", "my-claim"⟩ := by
    intro moment present between after before
    obtain rfl := Nat.le_antisymm before after
    exact present
  have current : rebuilt.Current := by
    intro place ask seen here conditional sees
    match place, here with
    | 0, rfl => cases sees
    | 1, rfl =>
      cases sees
      exact .inr ⟨Nat.le_refl 1, key 1 (by decide +kernel)⟩
    | 2, rfl => cases conditional
    | 3, rfl => cases sees
    | 4, rfl =>
      cases sees
      exact .inr ⟨Nat.le_refl 4, key 4 (by decide +kernel)⟩
  exact ⟨current, agrees_of_current current⟩

end Script

end ClaimOperator

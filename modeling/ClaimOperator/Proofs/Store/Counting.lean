import ClaimOperator.Proofs.Store.LocalStore
import ClaimOperator.Proofs.Store.LostUpdates
import ClaimOperator.Proofs.Store.RowVersions

/-! Local stores count the writes that they take.

The version of an object is a number, and the next write under its key is given a higher
one. So as long as a key is not given up its versions rise, in either store and over any
history; what happens once it is given up is where the two stores part.
-/

set_option autoImplicit false

namespace ClaimOperator

namespace Version

/-- Versions come in the order of the numbers that they are written for. -/
def Precedes (earlier later : Option String) : Prop :=
  ∃ a b, a < b ∧ earlier = some (Text.decimal a) ∧ later = some (Text.decimal b)

theorem Precedes.trans {first second third : Option String} (before : Precedes first second)
    (after : Precedes second third) : Precedes first third := by
  obtain ⟨a, b, lower, rfl, rfl⟩ := before
  obtain ⟨b', c, upper, same, rfl⟩ := after
  have := Text.decimal_inj (Option.some.inj same)
  exact ⟨a, c, by omega, rfl, rfl⟩

theorem Precedes.ne {earlier later : Option String} (before : Precedes earlier later) : earlier ≠ later := by
  obtain ⟨a, b, lower, rfl, rfl⟩ := before
  intro same
  have := Text.decimal_inj (Option.some.inj same)
  omega

theorem Precedes.ne_none {earlier later : Option String} (before : Precedes earlier later) : earlier ≠ none := by
  obtain ⟨a, b, _, rfl, _⟩ := before
  simp

end Version

/-- A local store in a state that it can be in, with the number of the version that the next write
under a key is given. -/
class Counting (σ : Type) extends LocalStore σ where
  Counted : σ → Prop
  next : σ → Kind → ObjectKey → Nat
  quiet : ∀ {state}, Counted state → Quiet state
  counted_empty : Counted empty
  counted_serve : ∀ {state}, Counted state → ∀ request now, Counted (LocalStore.serve request now state).2
  answers : ∀ {state}, Counted state → ∀ request now,
    ((LocalStore.serve request now state).1, contents (LocalStore.serve request now state).2) =
      (contents state).serve (Text.decimal (next state request.kind request.key)) now request
  numbered : ∀ {state}, Counted state → ∀ {kind key} {object : Object kind},
    contents state kind key = some object →
      ∃ number < next state kind key, object.metadata.version = some (Text.decimal number)
  reads : ∀ (state : σ) kind key now, (LocalStore.serve (.get kind key) now state).2 = state
  /-- A request in a unit of work of its own does what it does within a longer one. -/
  commits : ∀ {state}, Counted state → ∀ request now,
    Service.writeThrough LocalStore.serve request now state = LocalStore.serve request now state

instance : Counting Tables where
  Counted := Tables.Versioned
  next store _ _ := store.nextVersion
  quiet _ := trivial
  counted_empty := Tables.versioned_empty
  counted_serve versioned request now := versioned.serve request now
  answers _ request now := Tables.serve_eq request now _
  numbered versioned _ _ _ found := versioned.numbered found
  reads store kind key now := congrArg Prod.snd (Tables.serve_get store now kind key)
  commits _ _ _ := Service.writeThrough_of_kept fun _ _ => rfl

instance : Counting Rows.Connection where
  Counted := Rows.Connection.Quiet
  next connection := connection.rows.nextVersion
  quiet := id
  counted_empty := ⟨rfl, Rows.coherent_nil⟩
  counted_serve quiet request now := (quiet.serve request now).1
  answers quiet request now := (quiet.serve request now).2
  numbered _ _ _ _ found := by
    obtain ⟨number, next, version⟩ := Rows.numbered found
    exact ⟨number, by omega, version⟩
  reads _ _ _ _ := rfl
  commits quiet request now := quiet.sole.writeThrough request now

namespace Counting

variable {σ : Type} [Counting σ] {state : σ} {request : StoreRequest} {now : Timestamp} {kind : Kind}
  {key : ObjectKey} {object stored : Object kind}

theorem answer_serve (counted : Counted state) (request : StoreRequest) (now : Timestamp) :
    (LocalStore.serve request now state).1 =
      ((LocalStore.contents state).serve (Text.decimal (next state request.kind request.key)) now request).1 :=
  congrArg Prod.fst (answers counted request now)

theorem contents_serve (counted : Counted state) (request : StoreRequest) (now : Timestamp) :
    LocalStore.contents (LocalStore.serve request now state).2 =
      ((LocalStore.contents state).serve (Text.decimal (next state request.kind request.key)) now request).2 :=
  congrArg Prod.snd (answers counted request now)

theorem found_serve (counted : Counted state)
    (found : LocalStore.contents (LocalStore.serve request now state).2 kind key = some object) :
    LocalStore.contents state kind key = some object ∨
      object.metadata.version = some (Text.decimal (next state kind key)) := by
  rw [contents_serve counted] at found
  obtain before | ⟨rfl, rfl, version⟩ := Contents.found_serve found
  · exact .inl before
  · exact .inr version

theorem precedes_next (counted : Counted state) (found : LocalStore.contents state kind key = some object) :
    Version.Precedes object.metadata.version (some (Text.decimal (next state kind key))) := by
  obtain ⟨number, before, version⟩ := numbered counted found
  exact ⟨number, _, before, version, rfl⟩

theorem present_serve (counted : Counted state) (present : (LocalStore.contents state).Present) (request : StoreRequest)
    (now : Timestamp) : (LocalStore.contents (LocalStore.serve request now state).2).Present := by
  rw [contents_serve counted]
  exact present.serve _ now request

theorem answer_get_of_found (counted : Counted state) (found : LocalStore.contents state kind key = some object) :
    (LocalStore.serve (.get kind key) now state).1 = .ok object := by
  rw [answer_serve counted, Contents.serve_get_of_found found]

theorem answer_get_of_absent (counted : Counted state) (absent : LocalStore.contents state kind key = none) :
    (LocalStore.serve (.get kind key) now state).1 = .error (.store (.notFound kind key)) := by
  rw [answer_serve counted, Contents.serve_get_of_absent absent]

theorem answer_delete (counted : Counted state) (found : LocalStore.contents state kind object.key = some stored) :
    (LocalStore.serve (.delete object) now state).1 = .ok () := by
  rw [answer_serve counted]
  cases awaiting : WriteRules.isAwaitingRelease stored with
  | true => rw [Contents.serve_delete_of_awaiting found awaiting]
  | false => rw [Contents.serve_delete_of_found found awaiting]

theorem answer_update (counted : Counted state) (found : LocalStore.contents state kind object.key = some stored)
    (version : object.metadata.version = stored.metadata.version) :
    ∃ answer, (LocalStore.serve (.update object) now state).1 = .ok answer := by
  have matched := (WriteRules.matchVersion_eq_ok_iff stored object).mpr (.inr version)
  rw [answer_serve counted, Contents.serve_update_of_found found matched]
  split
  · exact ⟨_, rfl⟩
  · exact ⟨_, rfl⟩

end Counting

namespace History

section Definitions

variable (σ : Type) [LocalStore σ] (history : History)

def reached : (moment : Nat) → σ
  | 0 => LocalStore.empty
  | moment + 1 =>
    match history[moment]? with
    | some call => (Service.writeThrough LocalStore.serve call.request call.now (reached moment)).2
    | none => reached moment

def recorded (moment : Nat) : Contents := LocalStore.contents (history.reached σ moment)

def versionAt (moment : Nat) (kind : Kind) (key : ObjectKey) : Option String :=
  (history.recorded σ moment kind key).bind (·.metadata.version)

/-- The key is not given up between these moments. -/
def Held (earlier later : Nat) (kind : Kind) (key : ObjectKey) : Prop :=
  ∀ moment, earlier ≤ moment → moment ≤ later → history.recorded σ moment kind key ≠ none

def Replies (place : Nat) (request : StoreRequest) (answer : Except Failure request.Answer) : Prop :=
  ∃ now, history[place]? = some ⟨request, now⟩ ∧
    (Service.writeThrough LocalStore.serve request now (history.reached σ place)).1 = answer

def branch (history : History) (place : Nat) (call : Call) : History := history.take place ++ [call]

end Definitions

variable {σ : Type} [Counting σ] {history : History} {kind : Kind} {key : ObjectKey}

def fresh (σ : Type) [Counting σ] (history : History) (moment : Nat) (kind : Kind) (key : ObjectKey) : String :=
  Text.decimal (Counting.next (history.reached σ moment) kind key)

theorem counted (history : History) (moment : Nat) : Counting.Counted (history.reached σ moment) := by
  induction moment with
  | zero => exact Counting.counted_empty
  | succ moment ih =>
    simp only [reached]
    cases history[moment]? with
    | none => exact ih
    | some call =>
      simp only [Counting.commits ih]
      exact Counting.counted_serve ih call.request call.now

theorem reached_succ {place : Nat} {request : StoreRequest} {now : Timestamp}
    (here : history[place]? = some ⟨request, now⟩) :
    history.reached σ (place + 1) = (LocalStore.serve request now (history.reached σ place)).2 := by
  simp only [reached, here, Counting.commits (history.counted place)]

theorem reached_succ_of_ended {place : Nat} (ended : history[place]? = none) :
    history.reached σ (place + 1) = history.reached σ place := by
  simp only [reached, ended]

/-- A request is answered by the shared rules, and gives out the next version of its key. -/
theorem serve_recorded {place : Nat} {request : StoreRequest} {now : Timestamp}
    (here : history[place]? = some ⟨request, now⟩) :
    (history.recorded σ place).serve (history.fresh σ place request.kind request.key) now request =
      ((Service.writeThrough LocalStore.serve request now (history.reached σ place)).1,
        history.recorded σ (place + 1)) := by
  have counted : Counting.Counted (history.reached σ place) := history.counted place
  rw [recorded, recorded, fresh, reached_succ here, Counting.commits counted, Counting.answers counted]

theorem versionAt_of_found {moment : Nat} {object : Object kind}
    (found : history.recorded σ moment kind key = some object) :
    history.versionAt σ moment kind key = object.metadata.version := by
  simp [versionAt, found]

theorem precedes_fresh {moment : Nat} (present : history.recorded σ moment kind key ≠ none) :
    Version.Precedes (history.versionAt σ moment kind key) (some (history.fresh σ moment kind key)) := by
  obtain ⟨object, found⟩ := Option.ne_none_iff_exists'.mp present
  rw [versionAt_of_found found]
  exact Counting.precedes_next (history.counted moment) found

theorem versionAt_of_answered {place : Nat} {request : StoreRequest} {answer : Except Failure request.Answer}
    {version : String} (replied : history.Replies σ place request answer)
    (named : request.answered answer = some version) :
    history.versionAt σ (place + 1) request.kind request.key = some version := by
  obtain ⟨now, here, rfl⟩ := replied
  have served := serve_recorded (σ := σ) here
  rw [← congrArg Prod.fst served] at named
  obtain ⟨_, object, found, stamped⟩ := Contents.found_of_answered named
  rw [congrArg Prod.snd served] at found
  rw [versionAt_of_found found, stamped]

theorem Held.until {earlier moment later : Nat} (held : history.Held σ earlier later kind key)
    (order : moment ≤ later) : history.Held σ earlier moment kind key :=
  fun moment' after before => held moment' after (Nat.le_trans before order)

theorem reached_congr {other : History} {moment : Nat} (same : ∀ place < moment, history[place]? = other[place]?) :
    history.reached σ moment = other.reached σ moment := by
  induction moment with
  | zero => rfl
  | succ moment ih =>
    have before := ih fun place earlier => same place (by omega)
    simp only [reached, same moment (by omega), before]

theorem recorded_take {place moment : Nat} (order : moment ≤ place) :
    History.recorded σ (history.take place) moment = history.recorded σ moment :=
  congrArg LocalStore.contents (reached_congr fun _ before => List.getElem?_take_of_lt (by omega))

theorem recorded_branch {place moment : Nat} (call : Call) (order : moment ≤ place)
    (within : place ≤ history.length) : (history.branch place call).recorded σ moment = history.recorded σ moment := by
  refine congrArg LocalStore.contents (reached_congr fun earlier before => ?_)
  have length : (history.take place).length = place := List.length_take_of_le within
  rw [branch, List.getElem?_append_left (by omega), List.getElem?_take_of_lt (by omega)]

/-- As long as a key is not given up, what lies under it stays the same or comes under a higher version. -/
theorem recorded_rises {earlier later : Nat} {object object' : Object kind} (order : earlier ≤ later)
    (held : history.Held σ earlier later kind key)
    (found : history.recorded σ earlier kind key = some object)
    (found' : history.recorded σ later kind key = some object') :
    object = object' ∨ Version.Precedes object.metadata.version object'.metadata.version := by
  induction order generalizing object' with
  | refl => exact .inl (Option.some.inj (found.symm.trans found'))
  | @step moment order ih =>
    have rest : ∀ {object' : Object kind}, history.recorded σ moment kind key = some object' →
        object = object' ∨ Version.Precedes object.metadata.version object'.metadata.version :=
      fun found' => ih (held.until (Nat.le_succ moment)) found'
    cases here : history[moment]? with
    | none =>
      rw [recorded, reached_succ_of_ended here] at found'
      exact rest found'
    | some call =>
      rw [recorded, reached_succ here] at found'
      obtain before | version := Counting.found_serve (history.counted moment) found'
      · exact rest before
      · obtain ⟨between, present⟩ := Option.ne_none_iff_exists'.mp (held moment order (Nat.le_succ moment))
        have step := Counting.precedes_next (history.counted moment) present
        rw [version]
        obtain rfl | below := rest present
        · exact .inr step
        · exact .inr (below.trans step)

end History

end ClaimOperator

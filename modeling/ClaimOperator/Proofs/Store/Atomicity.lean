import ClaimOperator.Proofs.Store.Counting

/-! A request is refused and changes nothing, or it is taken and changes what it should.

Which of the two, and why, depends only on the entry under the key of the request and on the version that the
object carries. What is taken goes to that one entry, and whoever asked is left with the object that was
handed in, under the version that is stored then.
-/

set_option autoImplicit false

namespace ClaimOperator

/-- The object carries a version, and it is not the one that is stored. -/
def Object.IsStale {kind : Kind} (object stored : Object kind) : Prop :=
  ∃ version, object.metadata.version = some version ∧ stored.metadata.version ≠ some version

namespace StoreRequest

/-- The categories under which a request is refused, by the entry under its key. -/
def Refused (category : StoreError.Category) : (request : StoreRequest) → Entry request.kind → Prop
  | get .., entry => category = .notFound ∧ entry = none
  | create _, entry => category = .alreadyExists ∧ entry ≠ none
  | update object, entry | updateStatus object, entry =>
    (category = .notFound ∧ entry = none) ∨
      (category = .conflict ∧ ∃ stored, entry = some stored ∧ object.IsStale stored)
  | delete _, entry => category = .notFound ∧ entry = none

/-- What a request that is taken makes of the entry under its key. -/
inductive Effect (now : Timestamp) : (request : StoreRequest) → request.Answer →
    Entry request.kind → Entry request.kind → Prop
  | read {kind : Kind} (key : ObjectKey) (stored : Object kind) :
    Effect now (.get kind key) stored (some stored) (some stored)
  | created {kind : Kind} (object : Object kind) (version : String) :
    Effect now (.create object) (some version) none
      (some { object with metadata := { object.metadata with deletionTime := none, version := some version } })
  | revised {kind : Kind} (object stored : Object kind) (version : String) :
    (stored.isLeaving = true → object.metadata.finalizers ≠ []) →
    Effect now (.update object) (some version) (some stored) (some
      { object with
        metadata :=
          { object.metadata with deletionTime := stored.metadata.deletionTime, version := some version }
        status := stored.status })
  | released {kind : Kind} (object stored : Object kind) :
    stored.isLeaving = true → object.metadata.finalizers = [] →
    Effect now (.update object) none (some stored) none
  | reported {kind : Kind} (object stored : Object kind) (version : String) :
    Effect now (.updateStatus object) (some version) (some stored) (some
      { stored with
        metadata := { stored.metadata with version := some version }
        status := object.status })
  | awaited {kind : Kind} (object stored : Object kind) : stored.isLeaving = true →
    stored.metadata.finalizers ≠ [] → Effect now (.delete object) () (some stored) (some stored)
  | marked {kind : Kind} (object stored : Object kind) (version : String) : stored.metadata.deletionTime = none →
    stored.metadata.finalizers ≠ [] → Effect now (.delete object) () (some stored) (some
      { stored with
        metadata := { stored.metadata with deletionTime := some now, version := some version } })
  | discarded {kind : Kind} (object stored : Object kind) : stored.metadata.finalizers = [] →
    Effect now (.delete object) () (some stored) none

/-- What whoever asked is to hold, by what is stored under the key then. -/
def stamped? : (request : StoreRequest) → Entry request.kind → Option AnyObject
  | get kind _, after => after.map (AnyObject.mk kind)
  | create object, after | update object, after | updateStatus object, after =>
    some ⟨_, object.withVersion (after.bind (·.metadata.version))⟩
  | delete object, _ => some ⟨_, object⟩

theorem held_of_effect {request : StoreRequest} {now : Timestamp} {answer : request.Answer}
    {before after : Entry request.kind} (effect : Effect now request answer before after) :
    some (request.held answer) = request.stamped? after := by
  cases effect <;> rfl

end StoreRequest

namespace WriteRules

variable {kind : Kind} {stored incoming : Object kind}

theorem isHeld_iff (object : Object kind) : isHeld object = true ↔ object.metadata.finalizers ≠ [] := by
  simp [isHeld]

theorem isStale_of_mismatch {error : StoreError} (mismatch : matchVersion stored incoming = .error error) :
    incoming.IsStale stored := by
  unfold matchVersion at mismatch
  split at mismatch
  · cases mismatch
  · next version carried =>
    split at mismatch
    · cases mismatch
    · next other => exact ⟨version, carried, Ne.symm other⟩

theorem not_isStale_of_match (matched : matchVersion stored incoming = .ok ()) : ¬ incoming.IsStale stored := by
  rintro ⟨version, carried, other⟩
  obtain none | same := (matchVersion_eq_ok_iff stored incoming).1 matched
  · rw [none] at carried
    cases carried
  · exact other (same.symm.trans carried)

theorem subject?_of_mismatch {error : StoreError} (mismatch : matchVersion stored incoming = .error error) :
    error.subject? = some (kind, incoming.key) := by
  unfold matchVersion at mismatch
  split at mismatch
  · cases mismatch
  · split at mismatch
    · cases mismatch
    · cases mismatch
      rfl

end WriteRules

/-! Each rule is exact: it refuses its entry for the reason that there is, or has its effect on it. -/

namespace Entry

variable {kind : Kind}

/-- The outcome of a request that is refused for the one reason that there is, or that has its effect. -/
def Settles (now : Timestamp) (request : StoreRequest) (before : Entry request.kind) :
    Except StoreError (request.Answer × Entry request.kind) → Prop
  | .ok (answer, after) => request.Effect now answer before after ∧ ∀ category, ¬ request.Refused category before
  | .error error =>
    (∀ category, request.Refused category before ↔ category = error.category) ∧
      error.subject? = some (request.kind, request.key)

theorem settles_of_ok (request : StoreRequest) {now : Timestamp} {before after : Entry request.kind}
    {answer : request.Answer} {outcome : Except StoreError (request.Answer × Entry request.kind)}
    (taken : outcome = .ok (answer, after)) (effect : request.Effect now answer before after)
    (unrefused : ∀ category, ¬ request.Refused category before) : Settles now request before outcome := by
  rw [taken]
  exact ⟨effect, unrefused⟩

theorem settles_get (now : Timestamp) (key : ObjectKey) (entry : Entry kind) :
    Settles now (.get kind key) entry (get key entry) := by
  cases entry with
  | none => exact ⟨fun category => and_iff_left rfl, rfl⟩
  | some stored => exact ⟨.read key stored, fun category refused => nomatch refused.2⟩

theorem settles_create (now : Timestamp) (object : Object kind) (fresh : String) (entry : Entry kind) :
    Settles now (.create object) entry (create object fresh entry) := by
  cases entry with
  | none => exact ⟨.created object fresh, fun category refused => refused.2 rfl⟩
  | some stored => exact ⟨fun category => and_iff_left nofun, rfl⟩

theorem settles_overwrite (request : StoreRequest) {now : Timestamp} {object : Object request.kind}
    {entry : Entry request.kind} {rule : Object request.kind → request.Answer × Entry request.kind}
    (own : object.key = request.key)
    (refused : ∀ category, request.Refused category entry ↔ (category = .notFound ∧ entry = none) ∨
      (category = .conflict ∧ ∃ stored, entry = some stored ∧ object.IsStale stored))
    (effect : ∀ stored, entry = some stored → request.Effect now (rule stored).1 (some stored) (rule stored).2) :
    Settles now request entry (overwrite object entry rule) := by
  cases entry with
  | none =>
    refine ⟨fun category => ?_, congrArg (fun key => some (request.kind, key)) own⟩
    rw [refused]
    simp [StoreError.category]
  | some stored =>
    cases matched : WriteRules.matchVersion stored object with
    | error error =>
      simp only [overwrite, matched, Except.map, Settles]
      refine ⟨fun category => ?_, own ▸ WriteRules.subject?_of_mismatch matched⟩
      rw [refused, WriteRules.category_of_mismatch matched]
      simp [WriteRules.isStale_of_mismatch matched]
    | ok _ =>
      simp only [overwrite, matched, Except.map, Settles]
      refine ⟨effect stored rfl, fun category => ?_⟩
      rw [refused]
      simp [WriteRules.not_isStale_of_match matched]

theorem settles_update (now : Timestamp) (object : Object kind) (fresh : String) (entry : Entry kind) :
    Settles now (.update object) entry (update object fresh entry) := by
  refine settles_overwrite (.update object) rfl (fun category => Iff.rfl) fun stored _ => ?_
  cases released : WriteRules.isReleased (WriteRules.revise stored object) with
  | true =>
    obtain ⟨leaving, bare⟩ := Bool.and_eq_true_iff.1 released
    refine .released object stored leaving ?_
    simpa [WriteRules.isHeld, WriteRules.revise] using bare
  | false =>
    refine .revised object stored fresh fun leaving bare => ?_
    have gone : WriteRules.isReleased (WriteRules.revise stored object) = true :=
      Bool.and_eq_true_iff.2 ⟨leaving, by simp [WriteRules.isHeld, WriteRules.revise, bare]⟩
    rw [released] at gone
    cases gone

theorem settles_updateStatus (now : Timestamp) (object : Object kind) (fresh : String) (entry : Entry kind) :
    Settles now (.updateStatus object) entry (updateStatus object fresh entry) :=
  settles_overwrite (.updateStatus object) rfl (fun _ => Iff.rfl) fun stored _ =>
    .reported object stored fresh

theorem settles_delete (now : Timestamp) (object : Object kind) (fresh : String) (entry : Entry kind) :
    Settles now (.delete object) entry (delete object now fresh entry) := by
  cases entry with
  | none => exact ⟨fun category => and_iff_left rfl, rfl⟩
  | some stored =>
    have present : ∀ category, ¬ StoreRequest.Refused category (.delete object) (some stored) :=
      fun category refused => nomatch refused.2
    cases held : WriteRules.isHeld stored with
    | false =>
      have rule : delete object now fresh (some stored) = .ok ((), none) := by
        simp [delete, WriteRules.isAwaitingRelease, WriteRules.mark?, held]
      have bare : stored.metadata.finalizers = [] := by simpa [WriteRules.isHeld] using held
      exact settles_of_ok (.delete object) rule (.discarded object stored bare) present
    | true =>
      have finalizers := (WriteRules.isHeld_iff stored).1 held
      cases time : stored.metadata.deletionTime with
      | some given =>
        have leaving : stored.isLeaving = true := by simp [Object.isLeaving, time]
        have rule : delete object now fresh (some stored) = .ok ((), some stored) := by
          simp [delete, WriteRules.isAwaitingRelease, leaving, held]
        exact settles_of_ok (.delete object) rule (.awaited object stored leaving finalizers) present
      | none =>
        have staying : stored.isLeaving = false := by simp [Object.isLeaving, time]
        have rule : delete object now fresh (some stored) = .ok ((), some
            { stored with
              metadata := { stored.metadata with deletionTime := some now, version := some fresh } }) := by
          simp [delete, WriteRules.isAwaitingRelease, WriteRules.mark?, staying, held, time, Object.withVersion]
        exact settles_of_ok (.delete object) rule (.marked object stored fresh time finalizers) present

end Entry

namespace Contents

variable {now : Timestamp} {contents : Contents}

/-- What is done to contents when a request has an outcome. -/
inductive Answered (now : Timestamp) (contents : Contents) (request : StoreRequest) :
    Except Failure request.Answer × Contents → Prop
  | taken (answer : request.Answer) (entry : Entry request.kind) :
    request.Effect now answer (contents request.kind request.key) entry →
    (∀ category, ¬ request.Refused category (contents request.kind request.key)) →
    Answered now contents request (.ok answer, contents.set request.kind request.key entry)
  | refused (error : StoreError) :
    (∀ category, request.Refused category (contents request.kind request.key) ↔ category = error.category) →
    error.subject? = some (request.kind, request.key) →
    Answered now contents request (.error (.store error), contents)

theorem answered_settle (request : StoreRequest) {outcome : Except StoreError (request.Answer × Entry request.kind)}
    (settles : Entry.Settles now request (contents request.kind request.key) outcome) :
    Answered now contents request (contents.settle request.key outcome) := by
  cases outcome with
  | ok result => exact .taken result.1 result.2 settles.1 settles.2
  | error error => exact .refused error settles.1 settles.2

theorem answered_serve (fresh : String) (now : Timestamp) (contents : Contents) (request : StoreRequest) :
    Answered now contents request (contents.serve fresh now request) := by
  cases request with
  | get kind key => exact answered_settle (.get kind key) (Entry.settles_get now key _)
  | create object => exact answered_settle (.create object) (Entry.settles_create now object fresh _)
  | update object => exact answered_settle (.update object) (Entry.settles_update now object fresh _)
  | updateStatus object =>
    exact answered_settle (.updateStatus object) (Entry.settles_updateStatus now object fresh _)
  | delete object => exact answered_settle (.delete object) (Entry.settles_delete now object fresh _)

end Contents

def Raises {α : Type} (answer : Except Failure α) (category : StoreError.Category) : Prop :=
  ∃ error, answer = .error (.store error) ∧ error.category = category

namespace LocalStore

variable {σ : Type}

/-- What a request does to a store and to the object that is handed in with it. -/
structure Atomic [LocalStore σ] (state : σ) (request : StoreRequest) (now : Timestamp) : Prop where
  raises : ∀ category, Raises (serve request now state).1 category ↔
    request.Refused category (contents state request.kind request.key)
  names : ∀ failure, (serve request now state).1 = .error failure →
    ∃ error, failure = .store error ∧ error.subject? = some (request.kind, request.key)
  -- The whole store, with the versions that it is to give out.
  unchanged : ∀ failure, (serve request now state).1 = .error failure →
    (serve request now state).2 = state ∧ (port.call request now state).record = request.handed?
  elsewhere : ∀ kind key, (kind, key) ≠ (request.kind, request.key) →
    contents (serve request now state).2 kind key = contents state kind key
  takes : ∀ answer, (serve request now state).1 = .ok answer →
    request.Effect now answer (contents state request.kind request.key)
        (contents (serve request now state).2 request.kind request.key) ∧
      (port.call request now state).record =
        request.stamped? (contents (serve request now state).2 request.kind request.key)

section Records

variable [LocalStore σ] {state : σ} {request : StoreRequest} {now : Timestamp}

theorem held_of_taken {answer : request.Answer} (taken : (serve request now state).1 = .ok answer) :
    (port.call request now state).record = some (request.held answer) := by
  rw [tidy.record_call, show (port.call request now state).answer = _ from taken]
  rfl

end Records

theorem atomic_of_kept [Counting σ] {state : σ} {request : StoreRequest} {now : Timestamp}
    (counted : Counting.Counted state)
    (kept : ∀ failure, (serve request now state).1 = .error failure → (serve request now state).2 = state) :
    Atomic state request now := by
  have answered := Contents.answered_serve (Text.decimal (Counting.next state request.kind request.key)) now
    (contents state) request
  rw [← Counting.answers counted] at answered
  generalize outcome : ((serve request now state).1, contents (serve request now state).2) = result at answered
  cases answered with
  | taken answer entry effect unrefused =>
    obtain ⟨replied, left⟩ := Prod.mk.inj outcome
    constructor
    · intro category
      refine iff_of_false ?_ (unrefused category)
      rintro ⟨error, refused, -⟩
      cases replied.symm.trans refused
    · intro failure refused
      cases replied.symm.trans refused
    · intro failure refused
      cases replied.symm.trans refused
    · intro kind key other
      rw [left, Contents.set_of_ne _ _ other]
    · intro given taken
      cases replied.symm.trans taken
      rw [left, Contents.set_self]
      exact ⟨effect, (held_of_taken replied).trans (StoreRequest.held_of_effect effect)⟩
  | refused error reason subject =>
    obtain ⟨replied, left⟩ := Prod.mk.inj outcome
    constructor
    · intro category
      rw [reason category]
      constructor
      · rintro ⟨raised, refused, rfl⟩
        cases replied.symm.trans refused
        rfl
      · rintro rfl
        exact ⟨error, replied, rfl⟩
    · intro failure refused
      cases replied.symm.trans refused
      exact ⟨error, rfl, subject⟩
    · intro failure refused
      exact ⟨kept failure refused, tidy.record_of_failed refused⟩
    · intro kind key _
      rw [left]
    · intro given taken
      cases replied.symm.trans taken

end LocalStore

/-- Whatever was asked of a local store before, the next request is refused exactly when it should be, and is then
as if it had not been made. -/
theorem History.atomic (history : History) (moment : Nat) (request : StoreRequest) (now : Timestamp) :
    LocalStore.Atomic (history.reached Tables moment) request now ∧
      LocalStore.Atomic (history.reached Rows.Connection moment) request now := by
  constructor
  · exact LocalStore.atomic_of_kept (history.counted moment) fun _ refused => Tables.kept_serve request now _ _ refused
  · have quiet : Rows.Connection.Quiet _ := Counting.quiet (history.counted (σ := Rows.Connection) moment)
    exact LocalStore.atomic_of_kept (history.counted moment) fun _ refused => quiet.sole.serve_of_refused refused

end ClaimOperator

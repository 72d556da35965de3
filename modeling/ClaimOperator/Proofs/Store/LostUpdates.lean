import ClaimOperator.Proofs.Store.Versions

/-! Optimistic concurrency in the store in memory.

A history is any run of requests from the empty store, whoever makes them and
whatever objects they hand in; a client who holds a version is whoever hands it in.
A version stands for one object under one key, in one state, and a write that
carries it can only go over that state.
-/

set_option autoImplicit false

namespace ClaimOperator

structure Call where
  request : StoreRequest
  now : Timestamp

namespace StoreRequest

def answered : (request : StoreRequest) → Except Failure request.Answer → Option String
  | create _, .ok version | update _, .ok version | updateStatus _, .ok version => version
  | _, _ => none

def carried : StoreRequest → Option String
  | update object | updateStatus object => object.metadata.version
  | _ => none

end StoreRequest

namespace Entry

variable {kind : Kind} {object : Object kind} {fresh version : String} {entry after : Entry kind}

theorem create_stamps (created : create object fresh entry = .ok (some version, after)) :
    version = fresh ∧ ∃ written, after = some written ∧ written.metadata.version = some version := by
  unfold create at created
  split at created
  · cases created
  · cases created
    exact ⟨rfl, _, rfl, rfl⟩

theorem update_stamps (updated : update object fresh entry = .ok (some version, after)) :
    version = fresh ∧ ∃ written, after = some written ∧ written.metadata.version = some version := by
  obtain ⟨stored, _, _, outcome⟩ := overwrite_eq_ok_iff.mp updated
  split at outcome
  · cases outcome
  · cases outcome
    exact ⟨rfl, _, rfl, rfl⟩

theorem updateStatus_stamps (updated : updateStatus object fresh entry = .ok (some version, after)) :
    version = fresh ∧ ∃ written, after = some written ∧ written.metadata.version = some version := by
  obtain ⟨stored, _, _, outcome⟩ := overwrite_eq_ok_iff.mp updated
  cases outcome
  exact ⟨rfl, _, rfl, rfl⟩

end Entry

theorem WriteRules.version_of_matched {kind : Kind} {stored incoming : Object kind} {version : String}
    (matched : matchVersion stored incoming = .ok ()) (carried : incoming.metadata.version = some version) :
    stored.metadata.version = some version := by
  have same := (matchVersion_eq_ok_iff stored incoming).mp matched
  rw [carried] at same
  exact (same.resolve_left nofun).symm

namespace Contents

variable {fresh version : String} {now : Timestamp} {contents : Contents} {request : StoreRequest}

theorem found_of_answered (answered : request.answered (contents.serve fresh now request).1 = some version) :
    version = fresh ∧ ∃ object : Object request.kind,
      (contents.serve fresh now request).2 request.kind request.key = some object ∧
        object.metadata.version = some version := by
  cases request with
  | get kind key => simp [StoreRequest.answered] at answered
  | delete object => simp [StoreRequest.answered] at answered
  | @create kind object =>
    cases outcome : Entry.create object fresh (contents kind object.key) with
    | error refused => simp [serve, outcome, settle, StoreRequest.answered] at answered
    | ok pair =>
      obtain ⟨answer, after⟩ := pair
      simp only [serve, outcome, settle, StoreRequest.answered] at answered ⊢
      subst answered
      obtain ⟨same, written, rfl, stamped⟩ := Entry.create_stamps outcome
      exact ⟨same, written, set_self _ _ _ _, stamped⟩
  | @update kind object =>
    cases outcome : Entry.update object fresh (contents kind object.key) with
    | error refused => simp [serve, outcome, settle, StoreRequest.answered] at answered
    | ok pair =>
      obtain ⟨answer, after⟩ := pair
      simp only [serve, outcome, settle, StoreRequest.answered] at answered ⊢
      subst answered
      obtain ⟨same, written, rfl, stamped⟩ := Entry.update_stamps outcome
      exact ⟨same, written, set_self _ _ _ _, stamped⟩
  | @updateStatus kind object =>
    cases outcome : Entry.updateStatus object fresh (contents kind object.key) with
    | error refused => simp [serve, outcome, settle, StoreRequest.answered] at answered
    | ok pair =>
      obtain ⟨answer, after⟩ := pair
      simp only [serve, outcome, settle, StoreRequest.answered] at answered ⊢
      subst answered
      obtain ⟨same, written, rfl, stamped⟩ := Entry.updateStatus_stamps outcome
      exact ⟨same, written, set_self _ _ _ _, stamped⟩

/-- A write under a version succeeds only over an object that is stored under it, and leaves none
there or one under the next version. -/
theorem found_of_accepted {answer : request.Answer} (accepted : (contents.serve fresh now request).1 = .ok answer)
    (carried : request.carried = some version) :
    (∃ stored, contents request.kind request.key = some stored ∧ stored.metadata.version = some version) ∧
      ∀ written, (contents.serve fresh now request).2 request.kind request.key = some written →
        written.metadata.version = some fresh := by
  cases request with
  | get kind key => cases carried
  | create object => cases carried
  | delete object => cases carried
  | @update kind object =>
    cases outcome : Entry.update object fresh (contents kind object.key) with
    | error refused => simp [serve, outcome, settle] at accepted
    | ok pair =>
      obtain ⟨stored, found, matched, rfl⟩ := Entry.overwrite_eq_ok_iff.mp outcome
      refine ⟨⟨stored, found, WriteRules.version_of_matched matched carried⟩, ?_⟩
      intro written after
      simp only [serve, outcome, settle, StoreRequest.kind, StoreRequest.key, set_self] at after
      split at after
      · cases after
      · cases after
        rfl
  | @updateStatus kind object =>
    cases outcome : Entry.updateStatus object fresh (contents kind object.key) with
    | error refused => simp [serve, outcome, settle] at accepted
    | ok pair =>
      obtain ⟨stored, found, matched, rfl⟩ := Entry.overwrite_eq_ok_iff.mp outcome
      refine ⟨⟨stored, found, WriteRules.version_of_matched matched carried⟩, ?_⟩
      intro written after
      simp only [serve, outcome, settle, StoreRequest.kind, StoreRequest.key, set_self] at after
      cases after
      rfl

end Contents

abbrev History := List Call

namespace History

def store (history : History) : (moment : Nat) → Tables
  | 0 => {}
  | moment + 1 =>
    match history[moment]? with
    | some call => (Tables.serve call.request call.now (store history moment)).2
    | none => store history moment

def found (history : History) (moment : Nat) (kind : Kind) (key : ObjectKey) : Option (Object kind) :=
  (history.store moment).find? kind key

def Answers (history : History) (place : Nat) (request : StoreRequest)
    (answer : Except Failure request.Answer) : Prop :=
  ∃ now, history[place]? = some ⟨request, now⟩ ∧
    (Tables.serve request now (history.store place)).1 = answer

/-- The request at this place gives out a version: it is answered with it, or an object comes to be
stored under it. -/
def GivesOut (history : History) (place : Nat) (kind : Kind) (key : ObjectKey) (version : String) : Prop :=
  (∃ request answer, history.Answers place request answer ∧ request.kind = kind ∧ request.key = key ∧
    request.answered answer = some version) ∨
  ∃ object, history.found (place + 1) kind key = some object ∧ object.metadata.version = some version ∧
    history.found place kind key ≠ some object

def Accepts (history : History) (place : Nat) (kind : Kind) (key : ObjectKey) (version : String) : Prop :=
  ∃ request answer, history.Answers place request (.ok answer) ∧ request.kind = kind ∧
    request.key = key ∧ request.carried = some version

variable (history : History)

theorem store_next (moment : Nat) :
    history.store (moment + 1) = history.store moment ∨
      ∃ call, history[moment]? = some call ∧
        history.store (moment + 1) = (Tables.serve call.request call.now (history.store moment)).2 := by
  simp only [store]
  cases history[moment]? with
  | none => exact .inl rfl
  | some call => exact .inr ⟨call, rfl, rfl⟩

theorem versioned (moment : Nat) : (history.store moment).Versioned := by
  induction moment with
  | zero => exact Tables.versioned_empty
  | succ moment ih =>
    obtain same | ⟨call, _, next⟩ := history.store_next moment
    · rwa [same]
    · rw [next]
      exact ih.serve call.request call.now

theorem nextVersion_le {earlier later : Nat} (order : earlier ≤ later) :
    (history.store earlier).nextVersion ≤ (history.store later).nextVersion := by
  induction order with
  | refl => exact Nat.le_refl _
  | @step moment _ ih =>
    apply Nat.le_trans ih
    obtain same | ⟨call, _, next⟩ := history.store_next moment
    · exact Nat.le_of_eq (congrArg Tables.nextVersion same).symm
    · rw [next]
      exact Tables.nextVersion_le_serve call.request call.now _

variable {history} {kind : Kind} {key : ObjectKey} {object : Object kind}

theorem found_next {moment : Nat} (found : history.found (moment + 1) kind key = some object) :
    history.found moment kind key = some object ∨
      (object.metadata.version = some (history.store moment).freshVersion ∧
        (history.store (moment + 1)).nextVersion = (history.store moment).nextVersion + 1 ∧
        ∃ call, history[moment]? = some call ∧ kind = call.request.kind ∧ key = call.request.key) := by
  unfold History.found at found ⊢
  obtain same | ⟨call, here, next⟩ := history.store_next moment
  · rw [same] at found
    exact .inl found
  · rw [next] at found ⊢
    obtain before | ⟨own, ownKey, version, grown⟩ := Tables.find?_serve found
    · exact .inl before
    · exact .inr ⟨version, grown, call, here, own, ownKey⟩

/-- An object under a version that was given out by some moment was there at that moment. -/
theorem found_earlier {earlier later number : Nat} (order : earlier ≤ later)
    (found : history.found later kind key = some object)
    (version : object.metadata.version = some (Text.decimal number))
    (old : number < (history.store earlier).nextVersion) :
    history.found earlier kind key = some object := by
  induction order with
  | refl => exact found
  | @step moment order ih =>
    obtain before | ⟨fresh, _, _⟩ := found_next found
    · exact ih before
    -- Were it written only here, its version would not have been given out at the earlier moment.
    · have same := Text.decimal_inj (Option.some.inj (version.symm.trans fresh))
      have := history.nextVersion_le order
      omega

/-- Whoever is found at two moments under one version was there all the time between, unchanged. -/
theorem found_between {earlier later : Nat} {object' : Object kind} (order : earlier ≤ later)
    (found : history.found earlier kind key = some object)
    (found' : history.found later kind key = some object')
    (same : object.metadata.version = object'.metadata.version) {moment : Nat}
    (after : earlier ≤ moment) (before : moment ≤ later) :
    history.found moment kind key = some object := by
  obtain ⟨number, old, version⟩ := (history.versioned earlier).numbered found
  have version' := same.symm.trans version
  have back := found_earlier order found' version' old
  have equal : object' = object := Option.some.inj (back.symm.trans found)
  have := history.nextVersion_le after
  rw [← equal]
  exact found_earlier before found' version' (by omega)

theorem found_of_givesOut {place : Nat} {version : String} (given : history.GivesOut place kind key version) :
    version = (history.store place).freshVersion ∧
      (history.store (place + 1)).nextVersion = (history.store place).nextVersion + 1 ∧
      (∃ call, history[place]? = some call ∧ kind = call.request.kind ∧ key = call.request.key) ∧
      ∃ object, history.found (place + 1) kind key = some object ∧ object.metadata.version = some version := by
  have stored : ∃ object, history.found (place + 1) kind key = some object ∧
      object.metadata.version = some version ∧ history.found place kind key ≠ some object := by
    obtain ⟨request, answer, ⟨now, here, rfl⟩, rfl, rfl, answered⟩ | stored := given
    · have served := Tables.serve_eq request now (history.store place)
      rw [congrArg Prod.fst served] at answered
      obtain ⟨fresh, object, found, stamped⟩ := Contents.found_of_answered answered
      rw [← congrArg Prod.snd served] at found
      refine ⟨object, ?_, stamped, fun before => ?_⟩
      · simpa only [History.found, store, here] using found
      · exact (history.versioned place).ne_fresh before (fresh ▸ stamped)
    · exact stored
  obtain ⟨object, found, stamped, new⟩ := stored
  obtain before | ⟨fresh, grown, call⟩ := found_next found
  · exact absurd before new
  · exact ⟨Option.some.inj (stamped.symm.trans fresh), grown, call, object, found, stamped⟩

theorem givesOut_of_found {moment : Nat} (found : history.found moment kind key = some object) :
    ∃ place < moment, ∃ version, object.metadata.version = some version ∧
      history.GivesOut place kind key version ∧ history.found (place + 1) kind key = some object := by
  induction moment with
  | zero => cases kind <;> cases found
  | succ moment ih =>
    by_cases before : history.found moment kind key = some object
    · obtain ⟨place, earlier, given⟩ := ih before
      exact ⟨place, by omega, given⟩
    · obtain ⟨fresh, _, _⟩ := (found_next found).resolve_left before
      exact ⟨moment, by omega, _, fresh, .inr ⟨object, found, fresh, before⟩, found⟩

theorem found_of_accepts {place : Nat} {version : String} (accepted : history.Accepts place kind key version) :
    (∃ stored, history.found place kind key = some stored ∧ stored.metadata.version = some version) ∧
      ∀ written, history.found (place + 1) kind key = some written →
        written.metadata.version = some (history.store place).freshVersion := by
  obtain ⟨request, answer, ⟨now, here, answered⟩, rfl, rfl, carried⟩ := accepted
  have served := Tables.serve_eq request now (history.store place)
  rw [congrArg Prod.fst served] at answered
  obtain ⟨held, after⟩ := Contents.found_of_accepted answered carried
  refine ⟨held, fun written found => after written ?_⟩
  rw [← congrArg Prod.snd served]
  simpa only [History.found, store, here] using found

theorem givesOut_unique {place place' : Nat} {kind' : Kind} {key' : ObjectKey} {version : String}
    (given : history.GivesOut place kind key version) (given' : history.GivesOut place' kind' key' version) :
    place = place' ∧ kind = kind' ∧ key = key' := by
  obtain ⟨fresh, grown, ⟨call, here, rfl, rfl⟩, _⟩ := found_of_givesOut given
  obtain ⟨fresh', grown', ⟨call', here', rfl, rfl⟩, _⟩ := found_of_givesOut given'
  have same := Text.decimal_inj (fresh.symm.trans fresh')
  -- Whichever request comes second finds that the counter has moved on from the version.
  have placed : place = place' := by
    obtain order | rfl | order := Nat.lt_trichotomy place place'
    · have := history.nextVersion_le (Nat.succ_le_of_lt order)
      rw [Nat.succ_eq_add_one] at this
      omega
    · rfl
    · have := history.nextVersion_le (Nat.succ_le_of_lt order)
      rw [Nat.succ_eq_add_one] at this
      omega
  subst placed
  cases here.symm.trans here'
  exact ⟨rfl, rfl, rfl⟩

theorem found_unique {moment moment' : Nat} {object' : Object kind}
    (found : history.found moment kind key = some object)
    (found' : history.found moment' kind key = some object')
    (same : object.metadata.version = object'.metadata.version) : object = object' := by
  obtain order | order := Nat.le_total moment moment'
  · have later := found_between order found found' same order (Nat.le_refl _)
    exact Option.some.inj (later.symm.trans found')
  · have later := found_between order found' found same.symm order (Nat.le_refl _)
    exact (Option.some.inj (later.symm.trans found)).symm

theorem not_found_after_accepts {place later : Nat} {version : String}
    (accepted : history.Accepts place kind key version) (after : place < later) {kind' : Kind}
    {key' : ObjectKey} {object : Object kind'} (found : history.found later kind' key' = some object) :
    object.metadata.version ≠ some version := by
  intro stamped
  obtain ⟨⟨stored, held, version'⟩, written⟩ := found_of_accepts accepted
  obtain ⟨number, old, numbered⟩ := (history.versioned place).numbered held
  have numbered' := stamped.trans (version'.symm.trans numbered)
  have here := found_earlier (Nat.le_of_lt after) found numbered' old
  obtain ⟨rfl, rfl⟩ := (history.versioned place).apart held here (numbered.trans numbered'.symm)
  have := history.nextVersion_le (Nat.le_succ place)
  -- The same object would have been there both before the write and after it.
  have next := found_earlier (Nat.succ_le_of_lt after) found numbered' (by omega)
  exact (history.versioned place).ne_fresh here (written object next)

end History

/-- What optimistic concurrency promises about a history. -/
structure History.LosesNoUpdate (history : History) : Prop where
  givenOnce : ∀ {place place' kind kind' key key' version},
    history.GivesOut place kind key version → history.GivesOut place' kind' key' version →
    place = place' ∧ kind = kind' ∧ key = key'
  sameContent : ∀ {moment moment' kind key} {object object' : Object kind},
    history.found moment kind key = some object → history.found moment' kind key = some object' →
    object.metadata.version = object'.metadata.version → object = object'
  -- The object that the version was given to is there, with nothing written since.
  overItsOwn : ∀ {place kind key version}, history.Accepts place kind key version →
    ∃ given < place, history.GivesOut given kind key version ∧
      ∃ object : Object kind, object.metadata.version = some version ∧
        ∀ moment, given < moment → moment ≤ place → history.found moment kind key = some object
  acceptedOnce : ∀ {place place' kind kind' key key' version},
    history.Accepts place kind key version → history.Accepts place' kind' key' version → place = place'
  overWhatWasSeen : ∀ {seen place kind key version} {object : Object kind},
    history.found seen kind key = some object → object.metadata.version = some version → seen ≤ place →
    history.Accepts place kind key version →
    ∀ moment, seen ≤ moment → moment ≤ place → history.found moment kind key = some object

/-- No run of requests from the empty store loses an update. -/
theorem History.losesNoUpdate (history : History) : history.LosesNoUpdate where
  givenOnce := givesOut_unique
  sameContent := found_unique
  overItsOwn {place kind key version} accepted := by
    obtain ⟨⟨stored, held, stamped⟩, _⟩ := found_of_accepts accepted
    obtain ⟨given, before, version', stamped', givesOut, put⟩ := givesOut_of_found held
    cases Option.some.inj (stamped.symm.trans stamped')
    exact ⟨given, before, givesOut, stored, stamped, fun moment after order =>
      found_between (Nat.succ_le_of_lt before) put held rfl after order⟩
  acceptedOnce {place place' kind kind' key key' version} accepted accepted' := by
    obtain ⟨⟨stored, held, stamped⟩, _⟩ := found_of_accepts accepted
    obtain ⟨⟨stored', held', stamped'⟩, _⟩ := found_of_accepts accepted'
    obtain order | rfl | order := Nat.lt_trichotomy place place'
    · exact absurd stamped' (not_found_after_accepts accepted order held')
    · rfl
    · exact absurd stamped (not_found_after_accepts accepted' order held)
  overWhatWasSeen {seen place kind key version object} found stamped order accepted moment after before := by
    obtain ⟨⟨stored, held, stamped'⟩, _⟩ := found_of_accepts accepted
    exact found_between order found held (stamped.trans stamped'.symm) after before

/-- A claim is created, and two clients who read it write it under the version that they read. -/
def History.twoWriters : History :=
  let claim : Claim :=
    { metadata := { key := ⟨"customer", "my-claim"⟩ }, spec := { legalEntity := default }, status := {} }
  let seen := claim.withVersion (some (Text.decimal 1))
  [⟨.create claim, .epoch⟩, ⟨.update seen, .epoch⟩, ⟨.update seen, .epoch⟩]

/-- Only the first of the two succeeds. -/
theorem History.accepts_twoWriters_iff :
    ∀ place, twoWriters.Accepts place .claim ⟨"customer", "my-claim"⟩ (Text.decimal 1) ↔ place = 1 := by
  have first : twoWriters.Accepts 1 .claim ⟨"customer", "my-claim"⟩ (Text.decimal 1) := by
    refine ⟨_, some (Text.decimal 2), ⟨.epoch, rfl, ?_⟩, rfl, rfl, rfl⟩
    decide +kernel
  intro place
  constructor
  · intro accepted
    exact twoWriters.losesNoUpdate.acceptedOnce accepted first
  · rintro rfl
    exact first

end ClaimOperator

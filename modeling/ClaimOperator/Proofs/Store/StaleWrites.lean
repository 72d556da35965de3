import ClaimOperator.Proofs.Store.Counting

/-! Stale writes.

A client who writes under a version that it saw is to be refused once something else is
stored. In the table of rows every row counts its own writes, from one: a key that is given
up and taken again goes through the same versions a second time, and a write under a version
of its first life may go over an object of the second. This is the only way for a stale write
to succeed, and the store in memory does not have it.
-/

set_option autoImplicit false

namespace ClaimOperator

namespace Entry

variable {kind : Kind} {object : Object kind} {entry : Entry kind}

theorem category_of_overwrite {α : Type} {rule : Object kind → α} {error : StoreError}
    (refused : overwrite object entry rule = .error error) : error.category = .notFound ∨ error.category = .conflict := by
  cases entry with
  | none =>
    cases refused
    exact .inl rfl
  | some stored =>
    cases matched : WriteRules.matchVersion stored object with
    | ok _ => simp [overwrite, matched, Except.map] at refused
    | error mismatch =>
      simp only [overwrite, matched, Except.map, Except.error.injEq] at refused
      exact .inr (refused ▸ WriteRules.category_of_mismatch matched)

end Entry

namespace Contents

variable {fresh version : String} {now : Timestamp} {contents : Contents} {request : StoreRequest}

theorem category_of_refused {failure : Failure} (carried : request.carried = some version)
    (refused : (contents.serve fresh now request).1 = .error failure) :
    ∃ error, failure = .store error ∧ (error.category = .notFound ∨ error.category = .conflict) := by
  cases request with
  | get kind key => cases carried
  | create object => cases carried
  | delete object => cases carried
  | @update kind object =>
    obtain ⟨error, outcome, rfl⟩ := settle_eq_error refused
    exact ⟨error, rfl, Entry.category_of_overwrite outcome⟩
  | @updateStatus kind object =>
    obtain ⟨error, outcome, rfl⟩ := settle_eq_error refused
    exact ⟨error, rfl, Entry.category_of_overwrite outcome⟩

end Contents

namespace History

section Definitions

variable (σ : Type) [LocalStore σ] (history : History)

/-- A write under a version that was seen before is refused, or it finds what was seen. -/
def RefusesStale : Prop :=
  ∀ {seen place request answer version} {object : Object request.kind}, seen ≤ place →
    history.recorded σ seen request.kind request.key = some object → object.metadata.version = some version →
    history.Replies σ place request answer → request.carried = some version →
      (∃ error, answer = .error (.store error) ∧ (error.category = .notFound ∨ error.category = .conflict)) ∨
        history.recorded σ place request.kind request.key = some object

/-- A version that comes back, after its key was given up, comes back for the same object. -/
def ReturnsAlike : Prop :=
  ∀ {seen absent place kind key} {object object' : Object kind}, seen < absent → absent < place →
    place ≤ history.length → history.recorded σ seen kind key = some object →
    history.recorded σ absent kind key = none → history.recorded σ place kind key = some object' →
    object.metadata.version = object'.metadata.version → object = object'

end Definitions

section Counting

variable {σ : Type} [Counting σ] {history : History} {kind : Kind} {key : ObjectKey} {object object' : Object kind}

theorem ReturnsAlike.eq_of_version (alike : history.ReturnsAlike σ) {seen place : Nat} (order : seen ≤ place)
    (within : place ≤ history.length) (found : history.recorded σ seen kind key = some object)
    (found' : history.recorded σ place kind key = some object')
    (same : object.metadata.version = object'.metadata.version) : object = object' := by
  by_cases held : history.Held σ seen place kind key
  · obtain equal | below := recorded_rises order held found found'
    · exact equal
    · exact absurd same below.ne
  · unfold Held at held
    push Not at held
    obtain ⟨absent, after, before, gone⟩ := held
    have first : seen ≠ absent := by
      rintro rfl
      cases found.symm.trans gone
    have last : absent ≠ place := by
      rintro rfl
      cases found'.symm.trans gone
    exact alike (by omega) (by omega) within found gone found' same

theorem ReturnsAlike.refusesStale (alike : history.ReturnsAlike σ) {place : Nat} (within : place ≤ history.length)
    (call : Call) : (history.branch place call).RefusesStale σ := by
  intro seen moment request answer version object order found stamped ⟨now, here, replied⟩ carried
  have length : (history.branch place call).length = place + 1 := by simp [branch, within]
  have latest : moment ≤ place := by
    have := (List.getElem?_eq_some_iff.mp here).1
    omega
  have served := serve_recorded (σ := σ) here
  rw [replied] at served
  cases answer with
  | error failure =>
    obtain ⟨error, rfl, category⟩ := Contents.category_of_refused carried (congrArg Prod.fst served)
    exact .inl ⟨error, rfl, category⟩
  | ok accepted =>
    obtain ⟨⟨stored, present, stamped'⟩, _⟩ := Contents.found_of_accepted (congrArg Prod.fst served) carried
    refine .inr (present.trans (congrArg some ?_))
    rw [recorded_branch call latest within] at present
    rw [recorded_branch call (by omega) within] at found
    exact (alike.eq_of_version order (by omega) found present (stamped.trans stamped'.symm)).symm

/-- The client who saw the object of the first life writes over the one that came back. -/
theorem returnsAlike_of_refusesStale
    (refuses : ∀ place ≤ history.length, ∀ call, (history.branch place call).RefusesStale σ) :
    history.ReturnsAlike σ := by
  intro seen absent place kind key object object' before after within found _ found' same
  obtain ⟨number, _, version⟩ := Counting.numbered (history.counted (σ := σ) place) found'
  have own := LocalStore.keyed (Counting.quiet (history.counted (σ := σ) place)) kind key object' found'
  subst own
  let call : Call := ⟨.updateStatus object', .epoch⟩
  have here : (history.branch place call)[place]? = some call := by simp [branch, within]
  have stays : ∀ moment ≤ place, (history.branch place call).recorded σ moment = history.recorded σ moment :=
    fun moment order => recorded_branch call order within
  have present : (history.branch place call).recorded σ place kind object'.key = some object' := by
    rw [stays place (Nat.le_refl place)]
    exact found'
  have seenThere : (history.branch place call).recorded σ seen kind object'.key = some object := by
    rw [stays seen (by omega)]
    exact found
  have matched : WriteRules.matchVersion object' object' = .ok () :=
    (WriteRules.matchVersion_eq_ok_iff object' object').mpr (.inr rfl)
  have served := serve_recorded (σ := σ) here
  rw [Contents.serve_updateStatus_of_found present matched] at served
  have replied : (history.branch place call).Replies σ place call.request (.ok (some _)) :=
    ⟨.epoch, here, (congrArg Prod.fst served).symm⟩
  obtain ⟨error, refused, _⟩ | kept :=
    refuses place within call (by omega) seenThere (same.trans version) replied version
  · cases refused
  · exact Option.some.inj (kept.symm.trans present)

end Counting

/-- Whatever is asked next, at whatever moment of a history, no stale write goes through: this holds
of the table of rows exactly if no version comes back for another object. -/
theorem refusesStale_rows_iff (history : History) :
    (∀ place ≤ history.length, ∀ call, (history.branch place call).RefusesStale Rows.Connection) ↔
      history.ReturnsAlike Rows.Connection :=
  ⟨returnsAlike_of_refusesStale, fun alike _ within call => alike.refusesStale within call⟩

theorem reached_tables (history : History) (moment : Nat) : history.reached Tables moment = history.store moment := by
  induction moment with
  | zero => rfl
  | succ moment ih =>
    cases here : history[moment]? with
    | none => rw [reached_succ_of_ended here, ih, store, here]
    | some call =>
      rw [reached_succ here, ih, store, here]
      rfl

theorem refusesStale_tables (history : History) {place : Nat} (within : place ≤ history.length) (call : Call) :
    (history.branch place call).RefusesStale Tables := by
  refine ReturnsAlike.refusesStale ?_ within call
  intro seen absent place kind key object object' _ _ _ found _ found' same
  rw [recorded, reached_tables] at found found'
  exact found_unique found found' same

def ownedBy (owner : LegalEntity) : Claim :=
  { metadata := { key := ⟨"customer", "my-claim"⟩ }, spec := { legalEntity := owner }, status := {} }

/-- A claim is created, removed, and created anew for somebody else; then whoever saw the first one writes it. -/
def reborn : History :=
  let first := ownedBy ⟨"First Corp", "entity-1"⟩
  [⟨.create first, .epoch⟩, ⟨.delete first, .epoch⟩, ⟨.create (ownedBy ⟨"Second Corp", "entity-2"⟩), .epoch⟩,
    ⟨.update (first.withVersion (some (Text.decimal 1))), .epoch⟩]

/-- The write goes through, and the second claim is lost. -/
theorem not_refusesStale_reborn : ¬ reborn.RefusesStale Rows.Connection := by
  let first := (ownedBy ⟨"First Corp", "entity-1"⟩).withVersion (some (Text.decimal 1))
  have seen : reborn.recorded Rows.Connection 1 .claim ⟨"customer", "my-claim"⟩ = some first := by decide +kernel
  have present : reborn.recorded Rows.Connection 3 .claim ⟨"customer", "my-claim"⟩ =
      some ((ownedBy ⟨"Second Corp", "entity-2"⟩).withVersion (some (Text.decimal 1))) := by decide +kernel
  have replied : reborn.Replies Rows.Connection 3 (.update first) (.ok (some (Text.decimal 2))) :=
    ⟨.epoch, rfl, by decide +kernel⟩
  intro refuses
  obtain ⟨error, refused, _⟩ | kept := refuses (by omega) seen rfl replied rfl
  · cases refused
  · have same : ownedBy ⟨"Second Corp", "entity-2"⟩ = ownedBy ⟨"First Corp", "entity-1"⟩ :=
      congrArg (Object.withVersion · none) (Option.some.inj (present.symm.trans kept))
    revert same
    decide

end History

end ClaimOperator

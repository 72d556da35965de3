import ClaimOperator.Proofs.Interleaving.Shifts
import ClaimOperator.Workflow

/-! What a client of the store in memory does among others, from request to request.

A claim that a client has read or written is its own as long as the version stands: what
is stored under that version is exactly that claim. So an update can only land on the
claim that the client knows, and what was known of its deletion and its marker still
counts when the request comes through.
-/

set_option autoImplicit false

namespace ClaimOperator

namespace Tables

/-- The versions are in order, and every reference lies where its claim's should. -/
structure Filed (space : String) (store : Tables) : Prop where
  versioned : store.Versioned
  derived : Contents.Derived space store.find?

structure Moves (space : String) (prompt : Prop) (before after : Tables) : Prop where
  filed : after.Filed space
  later : before.nextVersion ≤ after.nextVersion
  dated : ∀ key claim, after.find? .claim key = some claim →
    before.find? .claim key = some claim ∨ claim.metadata.version = some before.freshVersion
  shifts : Contents.Shifts space prompt before.find? after.find?

/-- What clients do while one of them waits, with references created promptly if that is assumed. -/
def Drifts (space : String) (prompt : Prop) : Tables → Tables → Prop :=
  Relation.ReflTransGen fun before after =>
    Moves space prompt before after ∧ (prompt → Contents.Prompt before.find? after.find?)

variable {space : String} {prompt : Prop} {before after met : Tables}

theorem find?_serve_eq (request : StoreRequest) (now : Timestamp) (store : Tables) :
    (serve request now store).2.find? = (Contents.serve store.freshVersion now store.find? request).2 :=
  congrArg Prod.snd (serve_eq request now store)

theorem Filed.serve (filed : met.Filed space) {request : StoreRequest}
    (proper : request.Proper space prompt met.find?) (now : Timestamp) :
    Moves space prompt met (serve request now met).2 := by
  have shifts : Contents.Shifts space prompt met.find? (Tables.serve request now met).2.find? := by
    rw [find?_serve_eq]
    exact .serve proper met.freshVersion now
  refine ⟨⟨filed.versioned.serve request now, filed.derived.shifts shifts⟩, nextVersion_le_serve request now met,
    ?_, shifts⟩
  intro key claim found
  exact (find?_serve found).imp id fun written => written.2.2.1

theorem Filed.idle (filed : met.Filed space) (prompt : Prop) : Moves space prompt met met :=
  ⟨filed, le_rfl, fun _ _ found => .inl found, .idle space prompt _⟩

theorem Filed.drifts (filed : before.Filed space) (drifts : Drifts space prompt before after) :
    after.Filed space := by
  cases drifts with
  | refl => exact filed
  | tail _ last => exact last.1.filed

end Tables

/-- A client's regime: any requests come in between, and its own must be such that others can count on them. -/
def Regime.among (space : String) (prompt : Prop) : Regime Tables where
  answers request met answer left := ∃ now, (answer, left) = Tables.serve request now met
  drift := Tables.Drifts space prompt
  keeps := Tables.Moves space prompt

variable {space : String} {prompt : Prop} {key : ObjectKey} {store : Tables}

theorem Action.ensures_ask_among (request : StoreRequest) {post : Except Failure request.Answer → Tables → Prop}
    (filed : store.Filed space)
    (ends : ∀ met, Tables.Drifts space prompt store met → met.Filed space →
      request.Proper space prompt met.find? ∧ ∀ now, (Tables.serve request now met).2.Filed space →
        post (Tables.serve request now met).1 (Tables.serve request now met).2) :
    (Action.ask request).Ensures (.among space prompt) post store := by
  rintro met drifts _ _ ⟨now, same⟩
  obtain ⟨rfl, rfl⟩ := Prod.mk.inj same
  have filed' := filed.drifts drifts
  obtain ⟨proper, ends⟩ := ends met drifts filed'
  have moves := filed'.serve proper now
  exact ⟨moves, ends now moves.filed⟩

theorem Operation.ensures_ask_among (request : StoreRequest)
    {post : Except Failure request.Answer → Pairing → Tables → Prop} {pairing : Pairing} (filed : store.Filed space)
    (ends : ∀ met, Tables.Drifts space prompt store met → met.Filed space →
      request.Proper space prompt met.find? ∧ ∀ now, (Tables.serve request now met).2.Filed space →
        post (Tables.serve request now met).1 pairing (Tables.serve request now met).2) :
    (Operation.ask request).Ensures (.among space prompt) post pairing store :=
  Operation.ensures_ask.mpr (Action.ensures_ask.mp (Action.ensures_ask_among request filed ends))

/-- What a client knows of a claim that it has read or written. -/
structure Acquainted (key : ObjectKey) (claim : Claim) (store : Tables) : Prop where
  own : claim.key = key
  given : ∃ number < store.nextVersion, claim.metadata.version = some (Text.decimal number)
  seen : ∀ stored, store.find? .claim key = some stored →
    stored.metadata.version = claim.metadata.version → stored = claim
  guarded : claim.hasMarker = true → Contents.Guarded store.find? key
  doomed : claim.isLeaving = true → Contents.Doomed store.find? key

namespace Acquainted

variable {claim stored : Claim} {before after : Tables}

theorem of_found (versioned : store.Versioned) (found : store.find? .claim key = some claim) :
    Acquainted key claim store where
  own := Tables.keyed_find? store .claim key claim found
  given := versioned.numbered found
  seen stored found' _ := Option.some.inj (found'.symm.trans found)
  guarded marked stored found' := by
    cases found'.symm.trans found
    exact .inr marked
  doomed leaving stored found' := by
    cases found'.symm.trans found
    exact leaving

theorem moves (acquainted : Acquainted key claim before) (moves : Tables.Moves space prompt before after) :
    Acquainted key claim after where
  own := acquainted.own
  given := by
    obtain ⟨number, earlier, version⟩ := acquainted.given
    exact ⟨number, earlier.trans_le moves.later, version⟩
  seen stored found same := by
    rcases moves.dated key stored found with earlier | fresh
    · exact acquainted.seen stored earlier same
    -- A claim written since has a version that was not given out when this one was.
    · obtain ⟨number, earlier, version⟩ := acquainted.given
      have next := Text.decimal_inj (Option.some.inj (version.symm.trans (same.symm.trans fresh)))
      exact absurd next earlier.ne
  guarded marked := (acquainted.guarded marked).shifts moves.shifts
  doomed leaving := (acquainted.doomed leaving).shifts moves.shifts

theorem drifts (acquainted : Acquainted key claim before) (drifts : Tables.Drifts space prompt before after) :
    Acquainted key claim after := by
  induction drifts with
  | refl => exact acquainted
  | tail _ last ih => exact ih.moves last.1

theorem eq_of_match (acquainted : Acquainted key claim store) (found : store.find? .claim key = some stored)
    {changed : Claim} (version : changed.metadata.version = claim.metadata.version)
    (matched : WriteRules.matchVersion stored changed = .ok ()) : stored = claim := by
  obtain ⟨number, _, given⟩ := acquainted.given
  rcases (WriteRules.matchVersion_eq_ok_iff stored changed).mp matched with unversioned | same
  · rw [version, given] at unversioned
    cases unversioned
  · exact acquainted.seen stored found (same.symm.trans version)

end Acquainted

theorem Tables.Drifts.unlinked {before after : Tables} (drifts : Tables.Drifts space prompt before after)
    (promptly : prompt) (doomed : Contents.Doomed before.find? key) (unlinked : Contents.Unlinked before.find? key) :
    Contents.Doomed after.find? key ∧ Contents.Unlinked after.find? key := by
  induction drifts with
  | refl => exact ⟨doomed, unlinked⟩
  | tail _ last ih =>
    obtain ⟨doomed, unlinked⟩ := ih
    exact ⟨doomed.shifts last.1.shifts, unlinked.shifts doomed last.1.shifts (last.2 promptly)⟩

/-! What an answer says about the store. -/

namespace Tables

variable {claim : Claim} {now : Timestamp} {version : Option String}

theorem find?_of_updateStatus (answered : (serve (.updateStatus claim) now store).1 = .ok version) :
    ∃ stored, store.find? .claim claim.key = some stored ∧ WriteRules.matchVersion stored claim = .ok () ∧
      (serve (.updateStatus claim) now store).2.find? .claim claim.key =
        some ((WriteRules.reviseStatus stored claim).withVersion version) := by
  rw [answer_eq] at answered
  rw [find?_serve_eq]
  obtain ⟨entry, written, after⟩ := Contents.settle_eq_ok answered
  obtain ⟨stored, found, matched, same⟩ := Entry.overwrite_eq_ok_iff.mp written
  refine ⟨stored, found, matched, ?_⟩
  cases same
  exact (congrFun (congrFun after .claim) claim.key).trans (Contents.set_self _ _ _ _)

theorem find?_of_update (answered : (serve (.update claim) now store).1 = .ok version) :
    ∃ stored, store.find? .claim claim.key = some stored ∧ WriteRules.matchVersion stored claim = .ok () ∧
      (WriteRules.isReleased (WriteRules.revise stored claim) = false →
        (serve (.update claim) now store).2.find? .claim claim.key =
          some ((WriteRules.revise stored claim).withVersion version)) := by
  rw [answer_eq] at answered
  rw [find?_serve_eq]
  obtain ⟨entry, written, after⟩ := Contents.settle_eq_ok answered
  obtain ⟨stored, found, matched, same⟩ := Entry.overwrite_eq_ok_iff.mp written
  refine ⟨stored, found, matched, fun stays => ?_⟩
  rw [if_neg (by simp [stays])] at same
  cases same
  exact (congrFun (congrFun after .claim) claim.key).trans (Contents.set_self _ _ _ _)

end Tables

end ClaimOperator

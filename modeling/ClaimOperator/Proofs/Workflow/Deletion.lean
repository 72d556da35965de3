import ClaimOperator.Proofs.Reconcile.Departure
import ClaimOperator.Proofs.Workflow.Rounds

/-! Passes over a claim whose deletion is requested.

A pass makes one write at most: it deletes the reference, or takes the marker off once there
is none. A reference that something holds is marked by the first pass, and while it stays the
further passes write nothing at all.
-/

set_option autoImplicit false

namespace ClaimOperator

namespace Object

def discarded {kind : Kind} (object : Object kind) (now : Timestamp) (fresh : String) : Option (Object kind) :=
  if object.metadata.finalizers = [] then none
  else if object.isLeaving then some object
  else some { object with metadata := { object.metadata with deletionTime := some now, version := some fresh } }

def released (claim : Claim) (fresh : String) : Option Claim :=
  if Finalizers.remove claim.metadata.finalizers Finalizers.claimMarker = [] then none
  else some (claim.removeMarker.withVersion (some fresh))

variable {kind : Kind} {object : Object kind}

theorem discarded_of_leaving (leaving : object.isLeaving = true) (present : WriteRules.isReleased object = false)
    (now : Timestamp) (fresh : String) : object.discarded now fresh = some object := by
  have held : object.metadata.finalizers ≠ [] := by
    intro none
    simp [WriteRules.isReleased, WriteRules.isHeld, leaving, none] at present
  rw [discarded, if_neg held, if_pos leaving]

theorem discarded_of_live (live : object.isLeaving = false) (now : Timestamp) (fresh : String) :
    object.discarded now fresh = (WriteRules.mark? object now).map (·.withVersion (some fresh)) := by
  have unmarked : object.metadata.deletionTime = none := by
    cases time : object.metadata.deletionTime with
    | none => rfl
    | some _ => simp [isLeaving, time] at live
  by_cases held : object.metadata.finalizers = []
  · simp [discarded, WriteRules.mark?, WriteRules.isHeld, held]
  · simp [discarded, WriteRules.mark?, WriteRules.isHeld, held, live, unmarked, withVersion]

theorem isLeaving_of_held (held : object.metadata.finalizers ≠ []) (now : Timestamp) (fresh : String) :
    ∃ left, object.discarded now fresh = some left ∧ left.isLeaving = true := by
  rw [discarded, if_neg held]
  split
  · next leaving => exact ⟨_, rfl, leaving⟩
  · exact ⟨_, rfl, rfl⟩

theorem isReleased_removeMarker {claim : Claim} (leaving : claim.isLeaving = true) :
    WriteRules.isReleased claim.removeMarker = true ↔
      Finalizers.remove claim.metadata.finalizers Finalizers.claimMarker = [] := by
  have leaving' : claim.removeMarker.isLeaving = true := leaving
  simp only [WriteRules.isReleased, leaving', WriteRules.isHeld, Bool.true_and, Bool.not_not, List.isEmpty_iff]
  rfl

end Object

namespace LocalStore

variable {σ : Type} [Counting σ] {store : σ} {claim : Claim}

def calls (space : String) (key : ObjectKey) (now : Timestamp) (store : σ) : List JournalEntry :=
  (journal now (Workflow.reconcile space key) store).2.calls

theorem pass_of_run (counted : Counting.Counted store) (found : contents store .claim claim.key = some claim)
    {space : String} {now : Timestamp} {result : PassResult} {left : Journaled σ}
    (runs : Pass.run.Ensures (.exact (Service.journaled serve) now)
      (fun outcome _ after => outcome = .ok result ∧ after = left) (.of claim space)
      ⟨store, [⟨.get, .claim, claim.key⟩]⟩) :
    pass space claim.key now store = (.ok (some result), left.store) ∧ calls space claim.key now store = left.calls := by
  let unread : Journaled σ := ⟨store, []⟩
  have counted' : Counting.Counted unread.store := counted
  obtain ⟨verdict, ⟨rfl, rfl⟩, outcome⟩ := journal_exact (Workflow.reconcile_of_run counted' found runs)
    (by rintro verdict left ⟨rfl, _⟩; rfl)
  obtain ⟨same, kept⟩ := journal_eq_work now (Workflow.reconcile space claim.key) store
  exact ⟨Prod.ext (same.symm.trans outcome) kept.symm, rfl⟩

theorem pass_exact (counted : Counting.Counted store) (found : contents store .claim claim.key = some claim)
    (leaving : claim.isLeaving = true) (marked : claim.hasMarker = true) (space : String) (now : Timestamp) :
    (pass space claim.key now store).1 =
        .ok (some ⟨(contents store .reference (claim.key.referenceKey space)).isSome, some .deletion⟩) ∧
      (pass space claim.key now store).2 = Service.after serve now store (Pass.departing space (contents store) claim) ∧
      calls space claim.key now store =
        [⟨.get, .claim, claim.key⟩, ⟨.get, .reference, claim.key.referenceKey space⟩] ++
          (Pass.departing space (contents store) claim).toList.map StoreRequest.call := by
  let read : Journaled σ := ⟨store, [⟨.get, .claim, claim.key⟩]⟩
  have counted' : Counting.Counted read.store := counted
  obtain ⟨passed, asked⟩ := pass_of_run counted found (Pass.run_exact counted' found leaving marked)
  rw [Service.after_journaled] at passed asked
  exact ⟨congrArg Prod.fst passed, congrArg Prod.snd passed, asked⟩

theorem contents_of_discard (counted : Counting.Counted store) {place : ObjectKey} {reference : Reference}
    (stored : contents store .reference place = some reference) (live : reference.isLeaving = false) (now : Timestamp) :
    ∃ fresh, contents (serve (.delete reference) now store).2 =
      (contents store).set .reference place
        ((WriteRules.mark? reference now).map (·.withVersion (some fresh))) := by
  obtain rfl : reference.key = place := keyed (Counting.quiet counted) .reference _ reference stored
  have idle : WriteRules.isAwaitingRelease reference = false := by
    rw [WriteRules.isAwaitingRelease, live, Bool.false_and]
  rw [Counting.contents_serve counted (.delete reference), Contents.serve_delete_of_found stored idle]
  exact ⟨_, rfl⟩

/-- A store in a state that it can be in, with a claim that is to go and holds the marker. -/
structure Parting (store : σ) (claim : Claim) : Prop where
  counted : Counting.Counted store
  present : (contents store).Present
  found : contents store .claim claim.key = some claim
  leaving : claim.isLeaving = true
  marked : claim.hasMarker = true

namespace Parting

variable {space : String} {reference : Reference}

theorem contents_of_stored (parting : Parting store claim)
    (stored : contents store .reference (claim.key.referenceKey space) = some reference) (now : Timestamp) :
    ∃ fresh, contents (pass space claim.key now store).2 =
      (contents store).set .reference (claim.key.referenceKey space) (reference.discarded now fresh) := by
  obtain ⟨_, left, _⟩ := pass_exact parting.counted parting.found parting.leaving parting.marked space now
  cases leaving : reference.isLeaving with
  | true =>
    have current := Contents.set_current (contents store) .reference (claim.key.referenceKey space)
    rw [stored] at current
    refine ⟨"", ?_⟩
    have present := parting.present _ _ _ stored
    rw [left, Pass.departing_of_leaving stored leaving, Object.discarded_of_leaving leaving present, current]
    rfl
  | false =>
    obtain ⟨fresh, after⟩ := contents_of_discard parting.counted stored leaving now
    rw [left, Pass.departing_of_live stored leaving, Service.after, after]
    exact ⟨fresh, by rw [Object.discarded_of_live leaving]⟩

theorem contents_of_absent (parting : Parting store claim)
    (absent : contents store .reference (claim.key.referenceKey space) = none) (now : Timestamp) :
    ∃ fresh, contents (pass space claim.key now store).2 =
      (contents store).set .claim claim.key (claim.released fresh) := by
  obtain ⟨_, left, _⟩ := pass_exact parting.counted parting.found parting.leaving parting.marked space now
  have matched := (WriteRules.matchVersion_eq_ok_iff claim claim.removeMarker).mpr (.inr rfl)
  have same : WriteRules.revise claim claim.removeMarker = claim.removeMarker := rfl
  have found : contents store .claim claim.removeMarker.key = some claim := parting.found
  rw [left, Pass.departing_of_absent absent, Service.after,
    Counting.contents_serve parting.counted (.update claim.removeMarker),
    Contents.serve_update_of_found found matched, same]
  refine ⟨Text.decimal (Counting.next store .claim claim.key), ?_⟩
  by_cases gone : Finalizers.remove claim.metadata.finalizers Finalizers.claimMarker = []
  · rw [Object.released, if_pos gone, if_pos ((Object.isReleased_removeMarker parting.leaving).mpr gone)]
    rfl
  · rw [Object.released, if_neg gone, if_neg (mt (Object.isReleased_removeMarker parting.leaving).mp gone)]
    rfl

theorem pass_of_stored (parting : Parting store claim)
    (stored : contents store .reference (claim.key.referenceKey space) = some reference) (now : Timestamp) :
    (pass space claim.key now store).1 = .ok (some ⟨true, some .deletion⟩) ∧
      Parting (pass space claim.key now store).2 claim := by
  obtain ⟨outcome, left, _⟩ := pass_exact parting.counted parting.found parting.leaving parting.marked space now
  obtain ⟨fresh, after⟩ := parting.contents_of_stored stored now
  rw [stored] at outcome
  refine ⟨outcome, ?_, ?_, ?_, parting.leaving, parting.marked⟩
  · rw [left]
    exact Counting.counted_after parting.counted now _
  · rw [left]
    exact Counting.present_after parting.counted parting.present now _
  · rw [after, Contents.set_reference_claim, parting.found]

/-- Once the deletion of the reference is requested, passes only read. -/
theorem idle_of_leaving (parting : Parting store claim)
    (stored : contents store .reference (claim.key.referenceKey space) = some reference)
    (leaving : reference.isLeaving = true) (now : Timestamp) :
    pass space claim.key now store = (.ok (some ⟨true, some .deletion⟩), store) ∧
      calls space claim.key now store =
        [⟨.get, .claim, claim.key⟩, ⟨.get, .reference, claim.key.referenceKey space⟩] := by
  obtain ⟨outcome, left, calls⟩ := pass_exact parting.counted parting.found parting.leaving parting.marked space now
  rw [stored] at outcome
  rw [Pass.departing_of_leaving stored leaving] at left calls
  exact ⟨Prod.ext outcome left, calls⟩

end Parting

/-- How a claim goes whose deletion is requested. -/
structure Departs (space : String) (store : σ) (claim : Claim) : Prop where
  -- As long as there is a reference the claim stays as it is, and another pass is asked for.
  waits : ∀ reference, contents store .reference (claim.key.referenceKey space) = some reference → ∀ now,
    (pass space claim.key now store).1 = .ok (some ⟨true, some .deletion⟩) ∧
      contents (pass space claim.key now store).2 .claim claim.key = some claim ∧
      ∃ fresh, contents (pass space claim.key now store).2 =
        (contents store).set .reference (claim.key.referenceKey space) (reference.discarded now fresh)
  -- What holds the reference holds up the passes after the first one, which only read.
  stays : ∀ reference, contents store .reference (claim.key.referenceKey space) = some reference →
    reference.metadata.finalizers ≠ [] → ∀ now times,
      passes space claim.key (now :: times) store = (pass space claim.key now store).2 ∧
      ∀ later, pass space claim.key later (pass space claim.key now store).2 =
          (.ok (some ⟨true, some .deletion⟩), (pass space claim.key now store).2) ∧
        calls space claim.key later (pass space claim.key now store).2 =
          [⟨.get, .claim, claim.key⟩, ⟨.get, .reference, claim.key.referenceKey space⟩]
  releases : contents store .reference (claim.key.referenceKey space) = none → ∀ now,
    (pass space claim.key now store).1 = .ok (some ⟨false, some .deletion⟩) ∧
      ∃ fresh, contents (pass space claim.key now store).2 =
        (contents store).set .claim claim.key (claim.released fresh)
  -- A reference that nothing holds goes first, and the claim is released by the second pass.
  follows : ∀ reference, contents store .reference (claim.key.referenceKey space) = some reference →
    reference.metadata.finalizers = [] → ∀ first second,
      contents (pass space claim.key first store).2 =
        (contents store).set .reference (claim.key.referenceKey space) none ∧
      (pass space claim.key second (pass space claim.key first store).2).1 = .ok (some ⟨false, some .deletion⟩) ∧
      ∃ fresh, contents (passes space claim.key [first, second] store) =
        ((contents store).set .reference (claim.key.referenceKey space) none).set .claim claim.key (claim.released fresh)
  gone : ∀ reference, contents store .reference (claim.key.referenceKey space) = some reference →
    reference.metadata.finalizers = [] → (∀ finalizer ∈ claim.metadata.finalizers, finalizer = Finalizers.claimMarker) →
      ∀ first second, contents (passes space claim.key [first] store) .claim claim.key = some claim ∧
        contents (passes space claim.key [first, second] store) =
          ((contents store).set .reference (claim.key.referenceKey space) none).set .claim claim.key none

theorem Parting.releases {space : String} (parting : Parting store claim)
    (absent : contents store .reference (claim.key.referenceKey space) = none) (now : Timestamp) :
    (pass space claim.key now store).1 = .ok (some ⟨false, some .deletion⟩) ∧
      ∃ fresh, contents (pass space claim.key now store).2 =
        (contents store).set .claim claim.key (claim.released fresh) := by
  obtain ⟨outcome, _⟩ := pass_exact parting.counted parting.found parting.leaving parting.marked space now
  rw [absent] at outcome
  exact ⟨outcome, parting.contents_of_absent absent now⟩

theorem Parting.follows {space : String} {reference : Reference} (parting : Parting store claim)
    (stored : contents store .reference (claim.key.referenceKey space) = some reference)
    (free : reference.metadata.finalizers = []) (first second : Timestamp) :
    contents (pass space claim.key first store).2 =
        (contents store).set .reference (claim.key.referenceKey space) none ∧
      (pass space claim.key second (pass space claim.key first store).2).1 = .ok (some ⟨false, some .deletion⟩) ∧
      ∃ fresh, contents (passes space claim.key [first, second] store) =
        ((contents store).set .reference (claim.key.referenceKey space) none).set .claim claim.key
          (claim.released fresh) := by
  obtain ⟨_, still⟩ := parting.pass_of_stored stored first
  obtain ⟨fresh, after⟩ := parting.contents_of_stored stored first
  rw [Object.discarded, if_pos free] at after
  have absent : contents (pass space claim.key first store).2 .reference (claim.key.referenceKey space) = none := by
    rw [after, Contents.set_self]
  obtain ⟨outcome, fresh, released⟩ := still.releases absent second
  rw [after] at released
  exact ⟨after, outcome, fresh, released⟩

theorem Parting.departs (parting : Parting store claim) (space : String) : Departs space store claim where
  waits reference stored now := by
    obtain ⟨outcome, still⟩ := parting.pass_of_stored stored now
    exact ⟨outcome, still.found, parting.contents_of_stored stored now⟩
  stays reference stored held now times := by
    obtain ⟨_, still⟩ := parting.pass_of_stored stored now
    obtain ⟨fresh, after⟩ := parting.contents_of_stored stored now
    obtain ⟨left, kept, leaving⟩ : ∃ left, reference.discarded now fresh = some left ∧ left.isLeaving = true :=
      Object.isLeaving_of_held held now fresh
    have stored' : contents (pass space claim.key now store).2 .reference (claim.key.referenceKey space) = some left := by
      rw [after, Contents.set_self, kept]
    have idle : ∀ later, _ := fun later => still.idle_of_leaving stored' leaving later
    have fixed : ∀ later, (pass space claim.key later (pass space claim.key now store).2).2 =
        (pass space claim.key now store).2 := by
      intro later
      rw [(idle later).1]
    exact ⟨passes_of_idle fixed times, idle⟩
  releases absent now := parting.releases absent now
  follows reference stored free first second := parting.follows stored free first second
  gone reference stored free marks first second := by
    obtain ⟨_, still⟩ := parting.pass_of_stored stored first
    obtain ⟨_, _, fresh, released⟩ := parting.follows stored free first second
    refine ⟨still.found, ?_⟩
    have none_left : Finalizers.remove claim.metadata.finalizers Finalizers.claimMarker = [] := by
      simpa [Finalizers.remove] using marks
    rw [released, Object.released, if_pos none_left]

theorem Reached.counted_present (reached : Reached store) :
    Counting.Counted store ∧ (contents store).Present := by
  induction reached with
  | empty =>
    refine ⟨Counting.counted_empty, ?_⟩
    rw [contents_empty]
    exact fun _ _ _ found => nomatch found
  | served request now _ ih =>
    exact ⟨Counting.counted_serve ih.1 request now, Counting.present_serve ih.1 ih.2 request now⟩

theorem Reached.departs (reached : Reached store) (found : contents store .claim claim.key = some claim)
    (leaving : claim.isLeaving = true) (marked : claim.hasMarker = true) (space : String) : Departs space store claim :=
  Parting.departs ⟨reached.counted_present.1, reached.counted_present.2, found, leaving, marked⟩ space

end LocalStore

/-- A claim that is to go departs after its reference, from any store that requests lead to: in memory and in a
table of rows. -/
theorem reached_departs (space : String) :
    (∀ (store : Tables) (claim : Claim), LocalStore.Reached store → store.find? .claim claim.key = some claim →
      claim.isLeaving = true → claim.hasMarker = true → LocalStore.Departs space store claim) ∧
    ∀ (connection : Rows.Connection) (claim : Claim), LocalStore.Reached connection →
      Rows.contents connection.rows .claim claim.key = some claim → claim.isLeaving = true → claim.hasMarker = true →
      LocalStore.Departs space connection claim :=
  ⟨fun _ _ reached found leaving marked => reached.departs found leaving marked space,
    fun _ _ reached found leaving marked => reached.departs found leaving marked space⟩

/-- A claim that is to go. The marker is on it twice, and somebody else holds it as well. -/
def partingClaim : Claim where
  metadata :=
    { key := ⟨"customer", "my-claim"⟩
      finalizers := [Finalizers.claimMarker, "other", Finalizers.claimMarker]
      deletionTime := some .epoch
      version := some (Text.decimal 2) }
  spec := { legalEntity := default }
  status := {}

def partingStore (σ : Type) [LocalStore σ] : σ :=
  let draft := partingClaim.draftReference defaultReferenceSpace
  let reference : Reference := { draft with metadata.finalizers := ["other"] }
  let created : σ := (LocalStore.serve (.create (partingClaim.withVersion none)) .epoch LocalStore.empty).2
  let deleted : σ := (LocalStore.serve (.delete (partingClaim.withVersion none)) .epoch created).2
  (LocalStore.serve (.create reference) .epoch deleted).2

theorem departs_parting :
    LocalStore.Departs defaultReferenceSpace (partingStore Tables) partingClaim ∧
      LocalStore.Departs defaultReferenceSpace (partingStore Rows.Connection) partingClaim := by
  have reached : ∀ (σ : Type) [LocalStore σ], LocalStore.Reached (partingStore σ) :=
    fun σ _ => .served _ _ (.served _ _ (.served _ _ .empty))
  obtain ⟨memory, rows⟩ := reached_departs defaultReferenceSpace
  exact ⟨memory _ partingClaim (reached Tables) (by decide +kernel) rfl (by decide +kernel),
    rows _ partingClaim (reached Rows.Connection) (by decide +kernel) rfl (by decide +kernel)⟩

end ClaimOperator

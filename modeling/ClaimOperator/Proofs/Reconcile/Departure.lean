import ClaimOperator.Proofs.Logic.Exact
import ClaimOperator.Proofs.Reconcile.Stages
import ClaimOperator.Proofs.Store.Counting
import ClaimOperator.Workflow

/-! A pass over a claim whose deletion is requested, request by request.

The pass reads the claim and the reference, and makes one write at most. A journal of the
requests that reach the store is kept beside it, so a request that changes nothing is told
from none at all.
-/

set_option autoImplicit false

namespace ClaimOperator

namespace Pass

/-- The one write of a pass over a claim that is to go, if there is anything left to write. -/
def departing (space : String) (contents : Contents) (claim : Claim) : Option StoreRequest :=
  match contents .reference (claim.key.referenceKey space) with
  | some reference => if reference.isLeaving then none else some (.delete reference)
  | none => some (.update claim.removeMarker)

variable {space : String} {contents : Contents} {claim : Claim} {reference : Reference}

theorem departing_of_absent (absent : contents .reference (claim.key.referenceKey space) = none) :
    departing space contents claim = some (.update claim.removeMarker) := by
  simp only [departing, absent]

theorem departing_of_leaving (stored : contents .reference (claim.key.referenceKey space) = some reference)
    (leaving : reference.isLeaving = true) : departing space contents claim = none := by
  simp only [departing, stored, leaving, ↓reduceIte]

theorem departing_of_live (stored : contents .reference (claim.key.referenceKey space) = some reference)
    (live : reference.isLeaving = false) : departing space contents claim = some (.delete reference) := by
  simp only [departing, stored, live, Bool.false_eq_true, ↓reduceIte]

end Pass

def Service.after {τ : Type} (serve : Service τ) (now : Timestamp) (state : τ) : Option StoreRequest → τ
  | some request => (serve request now state).2
  | none => state

theorem Service.after_journaled {τ : Type} (serve : Service τ) (now : Timestamp) (state : Journaled τ)
    (write : Option StoreRequest) : serve.journaled.after now state write =
      ⟨serve.after now state.store write, state.calls ++ write.toList.map StoreRequest.call⟩ := by
  cases write with
  | some request => rfl
  | none => simp [after]

namespace Counting

variable {σ : Type} [Counting σ] {state : σ}

theorem counted_after (counted : Counted state) (now : Timestamp) (write : Option StoreRequest) :
    Counted (Service.after LocalStore.serve now state write) := by
  cases write with
  | some request => exact counted_serve counted request now
  | none => exact counted

theorem present_after (counted : Counted state) (present : (LocalStore.contents state).Present) (now : Timestamp)
    (write : Option StoreRequest) : (LocalStore.contents (Service.after LocalStore.serve now state write)).Present := by
  cases write with
  | some request => exact present_serve counted present request now
  | none => exact present

theorem journaled_get (state : Journaled σ) (kind : Kind) (key : ObjectKey) (now : Timestamp) :
    (Service.journaled LocalStore.serve (.get kind key) now state).2 =
      ⟨state.store, state.calls ++ [⟨.get, kind, key⟩]⟩ :=
  congrArg (Journaled.mk · _) (reads state.store kind key now)

end Counting

section Exact

open Operation Pairing Pass Counting

variable {σ : Type} [Counting σ] {state : Journaled σ} {now : Timestamp} {pairing : Pairing}

theorem Pairing.findReference_exact (counted : Counted state.store)
    {post : Except Failure Bool → Pairing → Journaled σ → Prop}
    (looked : post (.ok (LocalStore.contents state.store .reference pairing.referenceKey).isSome)
      (pairing.finding (LocalStore.contents state.store .reference pairing.referenceKey))
      ⟨state.store, state.calls ++ [⟨.get, .reference, pairing.referenceKey⟩]⟩) :
    findReference.Ensures (.exact (Service.journaled LocalStore.serve) now) post pairing state := by
  simp only [findReference, ensures_bind, ensures_get, ensures_tryCatch, ensures_map]
  rw [ensures_ask_exact (.get .reference pairing.referenceKey), journaled_get]
  cases found : LocalStore.contents state.store .reference pairing.referenceKey with
  | some reference =>
    rw [found] at looked
    simp only [Service.journaled, answer_get_of_found counted found]
    exact looked
  | none =>
    rw [found] at looked
    simp only [Service.journaled, answer_get_of_absent counted found]
    exact looked

theorem Pairing.discardReference_exact (counted : Counted state.store)
    {post : Except Failure Unit → Pairing → Journaled σ → Prop} {reference : Reference}
    (known : pairing.found = some reference)
    (found : LocalStore.contents state.store .reference reference.key = some reference)
    (discarded : post (.ok ()) pairing (Service.journaled LocalStore.serve (.delete reference) now state).2) :
    discardReference.Ensures (.exact (Service.journaled LocalStore.serve) now) post pairing state := by
  obtain ⟨claim, expected, _⟩ := pairing
  cases known
  simp only [discardReference, Operation.note, ensures_bind, ensures_get, ensures_note, ensures_tryCatch,
    Option.getD_some]
  rw [ensures_ask_exact (.delete reference)]
  have answered : (Service.journaled LocalStore.serve (.delete reference) now state).1 = .ok () :=
    answer_delete counted found
  rw [answered]
  exact discarded

theorem Pairing.releaseClaim_exact (counted : Counted state.store)
    {post : Except Failure Change → Pairing → Journaled σ → Prop}
    (found : LocalStore.contents state.store .claim pairing.claim.key = some pairing.claim)
    (marked : pairing.claim.hasMarker = true)
    (released : ∀ version, post (.ok .modified) (pairing.holding (pairing.claim.removeMarker.withVersion version))
      (Service.journaled LocalStore.serve (.update pairing.claim.removeMarker) now state).2) :
    releaseClaim.Ensures (.exact (Service.journaled LocalStore.serve) now) post pairing state := by
  obtain ⟨version, answered⟩ :
      ∃ version, (Service.journaled LocalStore.serve (.update pairing.claim.removeMarker) now state).1 = .ok version :=
    @answer_update _ _ _ now _ pairing.claim.removeMarker _ counted found rfl
  simp only [releaseClaim, writeClaim, currentClaim, changeClaim, Operation.note, ensures_bind, ensures_get,
    ensures_pure, marked, Bool.not_true, Bool.false_eq_true, ↓reduceIte, ensures_modify, ensures_note]
  rw [ensures_ask_exact (.update pairing.claim.removeMarker), answered]
  exact released version

/-- The one write that there is to make is made, and the marker stays as long as a reference is found. -/
theorem Pairing.advanceDeletion_exact (counted : Counted state.store) {space : String} {claim : Claim}
    (found : LocalStore.contents state.store .claim claim.key = some claim) (marked : claim.hasMarker = true)
    {post : Except Failure Change → Pairing → Journaled σ → Prop}
    (ends : ∀ change (pairing : Pairing),
      pairing.claim.hasMarker =
          (LocalStore.contents state.store .reference (claim.key.referenceKey space)).isSome →
        post (.ok change) pairing ((Service.journaled LocalStore.serve).after now
          ⟨state.store, state.calls ++ [⟨.get, .reference, claim.key.referenceKey space⟩]⟩
          (departing space (LocalStore.contents state.store) claim))) :
    advanceDeletion.Ensures (.exact (Service.journaled LocalStore.serve) now) post (.of claim space) state := by
  simp only [advanceDeletion, ensures_bind]
  refine findReference_exact counted ?_
  have own : (Pairing.of claim space).referenceKey = claim.key.referenceKey space := rfl
  rw [own]
  cases stored : LocalStore.contents state.store .reference (claim.key.referenceKey space) with
  | some reference =>
    rw [stored, Option.isSome_some] at ends
    have same : ((Pairing.of claim space).finding (some reference)).isReferenceLeaving = reference.isLeaving := rfl
    simp only [Option.isSome_some, ↓reduceIte, ensures_bind, ensures_get, same]
    by_cases leaving : reference.isLeaving = true
    · rw [departing_of_leaving stored leaving] at ends
      rw [if_pos leaving]
      exact ends .unchanged ((Pairing.of claim space).finding (some reference)) marked
    · rw [departing_of_live stored (Bool.eq_false_iff.mpr leaving)] at ends
      rw [if_neg leaving]
      simp only [ensures_bind, ensures_pure]
      have key : reference.key = claim.key.referenceKey space :=
        LocalStore.keyed (quiet counted) .reference _ reference stored
      refine discardReference_exact ?_ rfl ?_ (ends .unchanged ((Pairing.of claim space).finding (some reference)) marked)
      · exact counted
      · rw [key]
        exact stored
  | none =>
    rw [stored, Option.isSome_none, departing_of_absent stored] at ends
    simp only [Option.isSome_none, Bool.false_eq_true, ↓reduceIte]
    refine releaseClaim_exact ?_ ?_ marked fun version => ends .modified _ (Object.hasMarker_removeMarker claim)
    · exact counted
    · exact found

theorem Pass.run_exact (counted : Counted state.store) {space : String} {claim : Claim}
    (found : LocalStore.contents state.store .claim claim.key = some claim) (leaving : claim.isLeaving = true)
    (marked : claim.hasMarker = true) :
    run.Ensures (.exact (Service.journaled LocalStore.serve) now) (fun outcome _ after =>
      outcome = .ok
        ⟨(LocalStore.contents state.store .reference (claim.key.referenceKey space)).isSome, some .deletion⟩ ∧
      after = (Service.journaled LocalStore.serve).after now
        ⟨state.store, state.calls ++ [⟨.get, .reference, claim.key.referenceKey space⟩]⟩
        (departing space (LocalStore.contents state.store) claim)) (.of claim space) state := by
  have current : (Pairing.of claim space).claim = claim := rfl
  simp only [Pass.run, runDeleted, currentClaim, ensures_bind, ensures_get, ensures_pure, current, leaving,
    ↓reduceIte, ensures_discard, ensures_attempt]
  refine advanceDeletion_exact counted found marked fun change pairing holds => ?_
  rw [← holds]
  simp only [attempting, Except.map]
  cases pairing.claim.hasMarker with
  | true => exact ⟨rfl, rfl⟩
  | false =>
    simp only [Bool.false_eq_true, ↓reduceIte, Pass.note, ensures_bind, ensures_note, ensures_pure]
    exact ⟨trivial, trivial⟩

theorem Workflow.reconcile_of_run (counted : Counted state.store) {space : String} {claim : Claim}
    (found : LocalStore.contents state.store .claim claim.key = some claim) {result : PassResult} {left : Journaled σ}
    (runs : run.Ensures (.exact (Service.journaled LocalStore.serve) now)
      (fun outcome _ after => outcome = .ok result ∧ after = left) (.of claim space)
      ⟨state.store, state.calls ++ [⟨.get, .claim, claim.key⟩]⟩) :
    (reconcile space claim.key).Ensures (.exact (Service.journaled LocalStore.serve) now)
      (fun verdict after => verdict = ⟨.ok (some result), true⟩ ∧ after = left) state := by
  have stored : (LocalStore.serve (.get .claim claim.key) now state.store).1 = .ok claim :=
    answer_get_of_found counted found
  have answered : (Service.journaled LocalStore.serve (.get .claim claim.key) now state).1 = .ok claim := stored
  unfold reconcile
  rw [Action.ensures_bind, Action.ensures_ask_exact, journaled_get, answered, Action.ensures_bind]
  refine Action.Ensures.mono runs ?_
  rintro ⟨_, pairing⟩ _ ⟨rfl, rfl⟩
  exact ⟨rfl, rfl⟩

end Exact

end ClaimOperator

import ClaimOperator.Proofs.Logic.Alone

/-! What each operation on a pair does to a local store that nobody else writes to.

The snapshot of the claim is current when it is what is stored. From a current snapshot
no request is refused: a write is stored as it was meant, unless its request is made to
fail, and then only the snapshot has changed.
-/

set_option autoImplicit false

namespace ClaimOperator

namespace Object

def opened (claim : Claim) : Claim := { claim with status.conditions := some [] }

def linkedTo (claim : Claim) (link : ObjectKey) : Claim := { claim with spec.referenceLink := link }

def inPhase (claim : Claim) (phase : ClaimPhase) : Claim := { claim with status.phase := some phase }

theorem isHeld_of_hasMarker {claim : Claim} (marked : claim.hasMarker = true) : WriteRules.isHeld claim = true := by
  unfold hasMarker at marked
  cases finalizers : claim.metadata.finalizers with
  | nil => simp [finalizers] at marked
  | cons first rest => simp [WriteRules.isHeld, finalizers]

theorem hasMarker_of_mark? {claim later : Claim} {now : Timestamp} (held : WriteRules.mark? claim now = some later) :
    later.hasMarker = claim.hasMarker := by
  unfold hasMarker
  rw [WriteRules.finalizers_of_mark? held]

theorem not_isReleased_of_hasMarker {claim : Claim} (marked : claim.hasMarker = true) :
    WriteRules.isReleased claim = false := by
  simp only [WriteRules.isReleased, isHeld_of_hasMarker marked, Bool.not_true, Bool.and_false]

def withStatus (claim : Claim) (status : ClaimStatus) : Claim := { claim with status := status }

end Object

namespace Pairing

open Operation

/-- The snapshot is what is stored. -/
def Current (pairing : Pairing) (contents : Contents) : Prop :=
  contents .claim pairing.claim.key = some pairing.claim

def holding (pairing : Pairing) (claim : Claim) : Pairing := { pairing with claim := claim }

variable {injected : StoreError → Prop} {keeps : Contents → Prop} {pairing : Pairing} {contents : Contents}

section Writes

variable {post : Except Failure Unit → Pairing → Contents → Prop} {stored : Claim}

theorem ensures_writeClaim (found : contents .claim pairing.claim.key = some stored)
    (version : pairing.claim.metadata.version = stored.metadata.version)
    (revised : WriteRules.revise stored pairing.claim = pairing.claim)
    (stays : WriteRules.isReleased pairing.claim = false → ∀ fresh : String,
      keeps (contents.set .claim pairing.claim.key (some (pairing.claim.withVersion (some fresh)))) ∧
      post (.ok ()) (pairing.holding (pairing.claim.withVersion (some fresh)))
        (contents.set .claim pairing.claim.key (some (pairing.claim.withVersion (some fresh)))))
    (leaves : WriteRules.isReleased pairing.claim = true →
      keeps (contents.set .claim pairing.claim.key none) ∧
      post (.ok ()) (pairing.holding (pairing.claim.withVersion none)) (contents.set .claim pairing.claim.key none))
    (failed : ∀ error, injected error → keeps contents ∧ post (.error (.store error)) pairing contents) :
    writeClaim.Ensures (.alone injected keeps) post pairing contents := by
  have matched := (WriteRules.matchVersion_eq_ok_iff stored pairing.claim).mpr (.inr version)
  simp only [writeClaim, currentClaim, changeClaim, ensures_bind, ensures_get, ensures_pure, ensures_modify]
  refine (ensures_ask_alone (.update pairing.claim)).mpr ⟨fun fresh now => ?_, failed⟩
  rw [Contents.serve_update_of_found found matched, revised]
  cases released : WriteRules.isReleased pairing.claim with
  | false => exact stays released fresh
  | true => exact leaves released

theorem ensures_writeStatus (found : contents .claim pairing.claim.key = some stored)
    (version : pairing.claim.metadata.version = stored.metadata.version)
    (written : ∀ fresh : String,
      let after := contents.set .claim pairing.claim.key
        (some ((stored.withStatus pairing.claim.status).withVersion (some fresh)))
      keeps after ∧ post (.ok ()) (pairing.holding (pairing.claim.withVersion (some fresh))) after)
    (failed : ∀ error, injected error → keeps contents ∧ post (.error (.store error)) pairing contents) :
    writeStatus.Ensures (.alone injected keeps) post pairing contents := by
  have matched := (WriteRules.matchVersion_eq_ok_iff stored pairing.claim).mpr (.inr version)
  simp only [writeStatus, currentClaim, changeClaim, ensures_bind, ensures_get, ensures_pure, ensures_modify,
    ensures_notingFailure]
  refine (ensures_ask_alone (.updateStatus pairing.claim)).mpr ⟨fun fresh now => ?_, failed⟩
  rw [Contents.serve_updateStatus_of_found found matched]
  exact written fresh

end Writes

section Changes

variable {post : Except Failure Change → Pairing → Contents → Prop}

/-- What has to hold of an operation that changes the claim: whether it is stored as changed, or its
request fails and only the snapshot is changed. -/
structure Saves (injected : StoreError → Prop) (keeps : Contents → Prop)
    (post : Except Failure Change → Pairing → Contents → Prop) (pairing : Pairing) (contents : Contents)
    (changed : Claim) : Prop where
  written : ∀ fresh : String,
    let after := contents.set .claim pairing.claim.key (some (changed.withVersion (some fresh)))
    keeps after ∧ post (.ok .modified) (pairing.holding (changed.withVersion (some fresh))) after
  failed : ∀ error, injected error →
    keeps contents ∧ post (.error (.store error)) (pairing.holding changed) contents

theorem ensures_openConditions (current : pairing.Current contents)
    (unchanged : pairing.claim.status.conditions.isSome → post (.ok .unchanged) pairing contents)
    (saves : pairing.claim.status.conditions = none →
      Saves injected keeps post pairing contents pairing.claim.opened) :
    openConditions.Ensures (.alone injected keeps) post pairing contents := by
  simp only [openConditions, currentClaim, changeClaim, ensures_bind, ensures_get, ensures_pure]
  cases conditions : pairing.claim.status.conditions with
  | some entries => exact unchanged (by simp [conditions])
  | none =>
    obtain ⟨written, failed⟩ := saves conditions
    simp only [Option.isSome_none, Bool.false_eq_true, ↓reduceIte, ensures_bind, ensures_modify, ensures_pure]
    refine ensures_writeStatus current rfl ?_ ?_
    · exact written
    · exact failed

theorem ensures_enterPhase (current : pairing.Current contents) (target : ClaimPhase)
    (unchanged : target.canFollow pairing.claim.status.phase = false → post (.ok .unchanged) pairing contents)
    (saves : target.canFollow pairing.claim.status.phase = true →
      Saves injected keeps post pairing contents (pairing.claim.inPhase target)) :
    (enterPhase target).Ensures (.alone injected keeps) post pairing contents := by
  simp only [enterPhase, currentClaim, changeClaim, note, ensures_bind, ensures_get, ensures_pure]
  cases follows : target.canFollow pairing.claim.status.phase with
  | false => exact unchanged follows
  | true =>
    obtain ⟨written, failed⟩ := saves follows
    simp only [Bool.not_true, Bool.false_eq_true, ↓reduceIte, ensures_bind, ensures_note, ensures_modify,
      ensures_pure]
    refine ensures_writeStatus current rfl ?_ ?_
    · exact written
    · exact failed

theorem ensures_linkReference (current : pairing.Current contents) (live : pairing.claim.isLeaving = false)
    (unchanged : pairing.claim.spec.referenceLink = pairing.referenceKey →
      post (.ok .unchanged) pairing contents)
    (saves : pairing.claim.spec.referenceLink ≠ pairing.referenceKey →
      Saves injected keeps post pairing contents (pairing.claim.linkedTo pairing.referenceKey)) :
    linkReference.Ensures (.alone injected keeps) post pairing contents := by
  simp only [linkReference, changeClaim, note, ensures_bind, ensures_get]
  by_cases linked : pairing.claim.spec.referenceLink = pairing.referenceKey
  · rw [if_pos linked]
    exact unchanged linked
  · obtain ⟨written, failed⟩ := saves linked
    simp only [linked, ↓reduceIte, ensures_bind, ensures_note, ensures_modify, ensures_pure]
    -- An update may take a claim out of the store only when its deletion is requested.
    have stays : WriteRules.isReleased (pairing.claim.linkedTo pairing.referenceKey) = false := by
      simpa [WriteRules.isReleased, Object.isLeaving, Object.linkedTo] using fun leaving => by
        simp [Object.isLeaving, leaving] at live
    refine ensures_writeClaim current rfl rfl ?_ ?_ ?_
    · exact fun _ => written
    · exact fun released => absurd (stays.symm.trans released) Bool.false_ne_true
    · exact failed

theorem ensures_holdClaim (current : pairing.Current contents)
    (unchanged : pairing.claim.hasMarker = true → post (.ok .unchanged) pairing contents)
    (saves : pairing.claim.hasMarker = false → Saves injected keeps post pairing contents pairing.claim.addMarker) :
    holdClaim.Ensures (.alone injected keeps) post pairing contents := by
  simp only [holdClaim, currentClaim, changeClaim, note, ensures_bind, ensures_get, ensures_pure]
  cases marked : pairing.claim.hasMarker with
  | true => exact unchanged marked
  | false =>
    obtain ⟨written, failed⟩ := saves marked
    simp only [Bool.false_eq_true, ↓reduceIte, ensures_bind, ensures_modify, ensures_note, ensures_notingFailure,
      ensures_pure]
    refine ensures_writeClaim current rfl rfl ?_ ?_ ?_
    · exact fun _ => written
    -- What has the marker is held, so this update does not take the claim out either.
    · intro released
      have stays := Object.not_isReleased_of_hasMarker (Object.hasMarker_addMarker pairing.claim)
      exact absurd (stays.symm.trans released) Bool.false_ne_true
    · exact failed

theorem ensures_releaseClaim (current : pairing.Current contents)
    (unchanged : pairing.claim.hasMarker = false → post (.ok .unchanged) pairing contents)
    (stays : pairing.claim.hasMarker = true → WriteRules.isReleased pairing.claim.removeMarker = false →
      Saves injected keeps post pairing contents pairing.claim.removeMarker)
    (leaves : pairing.claim.hasMarker = true → WriteRules.isReleased pairing.claim.removeMarker = true →
      keeps (contents.set .claim pairing.claim.key none) ∧
      post (.ok .modified) (pairing.holding (pairing.claim.removeMarker.withVersion none))
        (contents.set .claim pairing.claim.key none))
    (failed : ∀ error, injected error →
      keeps contents ∧ post (.error (.store error)) (pairing.holding pairing.claim.removeMarker) contents) :
    releaseClaim.Ensures (.alone injected keeps) post pairing contents := by
  simp only [releaseClaim, currentClaim, changeClaim, note, ensures_bind, ensures_get, ensures_pure]
  cases marked : pairing.claim.hasMarker with
  | false => exact unchanged marked
  | true =>
    simp only [Bool.not_true, Bool.false_eq_true, ↓reduceIte, ensures_bind, ensures_modify, ensures_note,
      ensures_pure]
    refine ensures_writeClaim current rfl rfl ?_ ?_ ?_
    · exact fun kept => (stays marked kept).written
    · exact leaves marked
    · exact failed

end Changes

/-! The reference of a pair. -/

section References

def finding (pairing : Pairing) (found : Option Reference) : Pairing := { pairing with found := found }

variable (genuine : ∀ error, injected error → error.category ≠ .notFound)

include genuine

theorem ensures_findReference {post : Except Failure Bool → Pairing → Contents → Prop} (kept : keeps contents)
    (looked : post (.ok (contents .reference pairing.referenceKey).isSome)
      (pairing.finding (contents .reference pairing.referenceKey)) contents)
    (failed : ∀ error, injected error → post (.error (.store error)) pairing contents) :
    findReference.Ensures (.alone injected keeps) post pairing contents := by
  simp only [findReference, ensures_bind, ensures_get, ensures_tryCatch, ensures_map]
  refine (ensures_ask_alone (.get .reference pairing.referenceKey)).mpr
    ⟨fun fresh now => ?_, fun error injects => ⟨kept, ?_⟩⟩
  · cases found : contents .reference pairing.referenceKey with
    | some reference =>
      rw [Contents.serve_get_of_found found]
      rw [found] at looked
      exact ⟨kept, looked⟩
    | none =>
      rw [Contents.serve_get_of_absent found]
      rw [found] at looked
      exact ⟨kept, looked⟩
  · simp only [Except.map, genuine error injects, ↓reduceIte, ensures_throw]
    exact failed error injects

theorem ensures_provideReference {post : Except Failure Change → Pairing → Contents → Prop} (kept : keeps contents)
    (present : ∀ reference, contents .reference pairing.referenceKey = some reference →
      post (.ok .unchanged) (pairing.finding (some reference)) contents)
    (created : contents .reference pairing.referenceKey = none → ∀ fresh : String,
      let after := contents.set .reference pairing.referenceKey
        (some ((WriteRules.newborn pairing.reference).withVersion (some fresh)))
      keeps after ∧
        post (.ok .modified)
          { pairing with reference := pairing.reference.withVersion (some fresh), found := none } after)
    (failed : ∀ error, injected error → ∀ found, post (.error (.store error)) (pairing.finding found) contents) :
    provideReference.Ensures (.alone injected keeps) post pairing contents := by
  simp only [provideReference, ensures_bind]
  refine ensures_findReference genuine kept ?_ fun error injects => failed error injects pairing.found
  cases found : contents .reference pairing.referenceKey with
  | some reference => exact present reference found
  | none =>
    simp only [Option.isSome_none, Bool.false_eq_true, ↓reduceIte, note, ensures_bind, ensures_get, ensures_note,
      ensures_modify, ensures_pure]
    refine (ensures_ask_alone (.create pairing.reference)).mpr
      ⟨fun fresh now => ?_, fun error injects => ⟨kept, failed error injects none⟩⟩
    rw [Contents.serve_create_of_absent found]
    exact created found fresh

theorem ensures_discardReference {post : Except Failure Unit → Pairing → Contents → Prop} {reference : Reference}
    (found : pairing.found = some reference) (stored : contents .reference reference.key = some reference)
    (live : reference.isLeaving = false)
    (marked : ∀ (fresh : String) (now : Timestamp),
      let after := contents.set .reference reference.key
        ((WriteRules.mark? reference now).map (·.withVersion (some fresh)))
      keeps after ∧ post (.ok ()) pairing after)
    (failed : ∀ error, injected error → keeps contents ∧ post (.error (.store error)) pairing contents) :
    discardReference.Ensures (.alone injected keeps) post pairing contents := by
  have present : WriteRules.isAwaitingRelease reference = false := by simp [WriteRules.isAwaitingRelease, live]
  obtain ⟨claim, expected, _⟩ := pairing
  cases found
  simp only [discardReference, note, ensures_bind, ensures_get, ensures_note, ensures_tryCatch, Option.getD_some]
  refine (ensures_ask_alone (.delete reference)).mpr ⟨fun fresh now => ?_, fun error injects => ?_⟩
  · rw [Contents.serve_delete_of_found stored present]
    exact marked fresh now
  · simp only [genuine error injects, ↓reduceIte, ensures_throw]
    exact failed error injects

theorem ensures_advanceDeletion {post : Except Failure Change → Pairing → Contents → Prop}
    (kept : keeps contents) (current : pairing.Current contents)
    (own : ∀ reference, contents .reference pairing.referenceKey = some reference →
      reference.key = pairing.referenceKey)
    (awaited : ∀ reference, contents .reference pairing.referenceKey = some reference →
      reference.isLeaving = true → post (.ok .unchanged) (pairing.finding (some reference)) contents)
    (discarded : ∀ reference, contents .reference pairing.referenceKey = some reference →
      reference.isLeaving = false → ∀ (fresh : String) (now : Timestamp),
      let after := contents.set .reference pairing.referenceKey
        ((WriteRules.mark? reference now).map (·.withVersion (some fresh)))
      keeps after ∧ post (.ok .unchanged) (pairing.finding (some reference)) after)
    (unmarked : contents .reference pairing.referenceKey = none → pairing.claim.hasMarker = false →
      post (.ok .unchanged) (pairing.finding none) contents)
    (stays : contents .reference pairing.referenceKey = none → pairing.claim.hasMarker = true →
      WriteRules.isReleased pairing.claim.removeMarker = false →
      Saves injected keeps post (pairing.finding none) contents pairing.claim.removeMarker)
    (leaves : contents .reference pairing.referenceKey = none → pairing.claim.hasMarker = true →
      WriteRules.isReleased pairing.claim.removeMarker = true →
      let after := contents.set .claim pairing.claim.key none
      keeps after ∧
        post (.ok .modified) ((pairing.finding none).holding (pairing.claim.removeMarker.withVersion none)) after)
    (failed : ∀ error, injected error → ∀ pairing', pairing'.claim = pairing.claim ∨
      pairing'.claim = pairing.claim.removeMarker → post (.error (.store error)) pairing' contents) :
    advanceDeletion.Ensures (.alone injected keeps) post pairing contents := by
  simp only [advanceDeletion, ensures_bind]
  refine ensures_findReference genuine kept ?_ fun error injects => failed error injects _ (.inl rfl)
  cases found : contents .reference pairing.referenceKey with
  | some reference =>
    have key := own reference found
    have stored : contents .reference reference.key = some reference := key ▸ found
    simp only [Option.isSome_some, ↓reduceIte, ensures_bind, ensures_get]
    cases leaving : reference.isLeaving with
    | true =>
      have waits : (pairing.finding (some reference)).isReferenceLeaving = true := leaving
      simp only [waits, ↓reduceIte, ensures_pure]
      exact awaited reference found leaving
    | false =>
      have waits : (pairing.finding (some reference)).isReferenceLeaving = false := leaving
      simp only [waits, Bool.false_eq_true, ↓reduceIte, ensures_bind, ensures_pure]
      refine ensures_discardReference genuine ?_ stored leaving ?_ ?_
      · rfl
      · rw [key]
        exact discarded reference found leaving
      · exact fun error injects => ⟨kept, failed error injects _ (.inl rfl)⟩
  | none =>
    simp only [Option.isSome_none, Bool.false_eq_true, ↓reduceIte]
    refine ensures_releaseClaim current (unmarked found) (stays found) (leaves found) ?_
    exact fun error injects => ⟨kept, failed error injects _ (.inr rfl)⟩

end References

/-! The error condition. -/

section Conditions

variable {stored : Claim}

theorem ensures_recordCondition {post : Except Failure Change → Pairing → Contents → Prop} (update : ConditionUpdate)
    (found : contents .claim pairing.claim.key = some stored)
    (version : pairing.claim.metadata.version = stored.metadata.version)
    (unchanged : ∀ now, pairing.claim.status.update? update now = none → post (.ok .unchanged) pairing contents)
    (written : ∀ now status, pairing.claim.status.update? update now = some status → ∀ fresh : String,
      let after := contents.set .claim pairing.claim.key
        (some ((stored.withStatus status).withVersion (some fresh)))
      keeps after ∧
        post (.ok .modified) (pairing.holding ((pairing.claim.withStatus status).withVersion (some fresh))) after)
    (failed : ∀ now status, pairing.claim.status.update? update now = some status → ∀ error, injected error →
      keeps contents ∧ post (.error (.store error)) (pairing.holding (pairing.claim.withStatus status)) contents) :
    (recordCondition update).Ensures (.alone injected keeps) post pairing contents := by
  simp only [recordCondition, currentClaim, changeClaim, ensures_bind, ensures_clock, ensures_get, ensures_pure]
  intro now
  cases updated : pairing.claim.status.update? update now with
  | none => exact unchanged now updated
  | some status =>
    simp only [ensures_bind, ensures_modify, ensures_pure]
    refine ensures_writeStatus found version ?_ ?_
    · exact written now status updated
    · exact failed now status updated

end Conditions

end Pairing

end ClaimOperator

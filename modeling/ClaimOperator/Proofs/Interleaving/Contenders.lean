import ClaimOperator.Proofs.Interleaving.Clients
import ClaimOperator.Proofs.Logic.Invariants
import ClaimOperator.Proofs.Store.Onward

/-! Clients of the store in memory that contend for the phase of a claim.

A client writes the whole status of its snapshot, which may be old, and may have a phase
that could not be written before. What is stored under the version of the snapshot never is
ahead of it, though, and under any other version the write is refused.
-/

set_option autoImplicit false

namespace ClaimOperator

/-- A request is answered by the store or made to fail; in between others do what takes no claim back. -/
def Regime.contended : Regime Tables where
  answers request met answer left :=
    (∃ now, (answer, left) = Tables.serve request now met) ∨ ∃ error, answer = .error (.store error) ∧ left = met
  drift := Relation.ReflTransGen Tables.Forward
  keeps := Tables.Forward

variable {store : Tables}

theorem Tables.Versioned.drifts {before after : Tables} (versioned : before.Versioned)
    (drifts : Relation.ReflTransGen Tables.Forward before after) : after.Versioned := by
  cases drifts with
  | refl => exact versioned
  | tail _ last => exact last.versioned

theorem Action.ensures_ask_contended (request : StoreRequest) {post : Except Failure request.Answer → Tables → Prop}
    (versioned : store.Versioned)
    (ends : ∀ met, Relation.ReflTransGen Tables.Forward store met → met.Versioned →
      request.Onward met.find? ∧
      (∀ now, Tables.Forward met (Tables.serve request now met).2 →
        post (Tables.serve request now met).1 (Tables.serve request now met).2) ∧
      ∀ error, post (.error (.store error)) met) :
    (Action.ask request).Ensures .contended post store := by
  intro met drifts answer left answered
  have versioned := versioned.drifts drifts
  obtain ⟨onward, served, failed⟩ := ends met drifts versioned
  obtain ⟨now, same⟩ | ⟨error, rfl, rfl⟩ := answered
  · obtain ⟨rfl, rfl⟩ := Prod.mk.inj same
    have forward := versioned.forward onward now
    exact ⟨forward, served now forward⟩
  · exact ⟨versioned.idle, failed error⟩

theorem Operation.ensures_ask_contended (request : StoreRequest)
    {post : Except Failure request.Answer → Pairing → Tables → Prop} {pairing : Pairing} (versioned : store.Versioned)
    (ends : ∀ met, Relation.ReflTransGen Tables.Forward store met → met.Versioned →
      request.Onward met.find? ∧
      (∀ now, Tables.Forward met (Tables.serve request now met).2 →
        post (Tables.serve request now met).1 pairing (Tables.serve request now met).2) ∧
      ∀ error, post (.error (.store error)) pairing met) :
    (Operation.ask request).Ensures .contended post pairing store :=
  Operation.ensures_ask.mpr (Action.ensures_ask.mp (Action.ensures_ask_contended request versioned ends))

/-- An invariant about the snapshot of the claim that others do not spoil. -/
structure Lasting (invariant : Pairing → Tables → Prop) : Prop where
  versioned : ∀ {pairing store}, invariant pairing store → store.Versioned
  forward : ∀ {pairing before after}, invariant pairing before → Tables.Forward before after → invariant pairing after
  snapshot : ∀ {pairing other store}, other.claim = pairing.claim → invariant pairing store → invariant other store

namespace Lasting

open Operation Pairing

variable {invariant : Pairing → Tables → Prop}

theorem versions : Lasting fun _ store => store.Versioned :=
  ⟨id, fun _ forward => forward.versioned, fun _ => id⟩

variable (lasting : Lasting invariant)

include lasting

theorem drifts {pairing : Pairing} {before after : Tables} (holds : invariant pairing before)
    (drifts : Relation.ReflTransGen Tables.Forward before after) : invariant pairing after := by
  induction drifts with
  | refl => exact holds
  | tail _ last ih => exact lasting.forward ih last

theorem keeps_ask (request : StoreRequest) (onward : ∀ contents, request.Onward contents) :
    Keeps .contended invariant (ask request) := by
  intro pairing store before
  refine ensures_ask_contended request (lasting.versioned before) fun met drifts _ => ?_
  have holds := lasting.drifts before drifts
  exact ⟨onward _, fun now forward => lasting.forward holds forward, fun _ => holds⟩

theorem keeps_modify {change : Pairing → Pairing} (same : ∀ pairing, (change pairing).claim = pairing.claim) :
    Keeps .contended invariant (modify change : Operation Unit) :=
  .modifies fun pairing _ => lasting.snapshot (same pairing)

theorem keeps_findReference : Keeps .contended invariant findReference := by
  refine .bind .get fun pairing => .bind (.tryCatch (.map _ ?_) fun failure => ?_) fun found => ?_
  · exact lasting.keeps_ask (.get .reference pairing.referenceKey) fun _ => trivial
  · cases failure with
    | store error => exact .ite (.pure _) (.throw _)
    | _ => exact .throw _
  · exact .bind (lasting.keeps_modify fun _ => rfl) fun _ => .pure _

theorem keeps_provideReference : Keeps .contended invariant provideReference := by
  refine .bind lasting.keeps_findReference fun found => ?_
  cases found with
  | true => exact .pure _
  | false =>
    refine .bind .get fun pairing => .bind (.note _ _ _) fun _ => ?_
    refine .bind (lasting.keeps_ask (.create pairing.reference) fun _ => trivial) fun version => ?_
    exact .bind (lasting.keeps_modify fun _ => rfl) fun _ => .pure _

end Lasting

/-! A pass over a claim whose deletion is requested writes no status, so it needs to know nothing of the claim. -/

namespace Pairing

open Operation

theorem keeps_discardReference : Keeps .contended (fun _ store => store.Versioned) discardReference := by
  refine .bind .get fun pairing => .bind (.note _ _ _) fun _ => .tryCatch ?_ fun failure => ?_
  · exact Lasting.versions.keeps_ask (.delete (pairing.found.getD pairing.reference)) fun _ => trivial
  · cases failure with
    | store error => exact .ite (.note _ _ _) (.throw _)
    | _ => exact .throw _

theorem keeps_releaseClaim : Keeps .contended (fun _ store => store.Versioned) releaseClaim := by
  have written : Keeps .contended (fun _ store => store.Versioned) writeClaim := by
    refine .bind Pass.keeps_currentClaim fun claim => ?_
    exact .bind (Lasting.versions.keeps_ask (.update claim) fun _ => trivial) fun _ => .modifies fun _ _ => id
  refine .bind Pass.keeps_currentClaim fun claim => .ite (.pure _) ?_
  refine .bind (.modifies fun _ _ => id) fun _ => .bind (.note _ _ _) fun _ => ?_
  exact .bind written fun _ => .pure _

theorem keeps_advanceDeletion : Keeps .contended (fun _ store => store.Versioned) advanceDeletion := by
  refine .bind Lasting.versions.keeps_findReference fun found => ?_
  cases found with
  | true => exact .bind .get fun pairing => .ite (.pure _) (.bind keeps_discardReference fun _ => .pure _)
  | false => exact keeps_releaseClaim

end Pairing

theorem Pass.keeps_runDeleted : Operation.Keeps .contended (fun _ store => store.Versioned) runDeleted := by
  refine .bind (.discard (keeps_attempt .deletion false Pairing.keeps_advanceDeletion nofun)) fun _ => ?_
  refine .bind keeps_currentClaim fun claim => .ite (.pure _) ?_
  exact .bind (keeps_note _ _) fun _ => .pure _

/-! What a client knows of a claim that it has read or written. -/

/-- The snapshot carries a version that was given out, and whatever is stored under it is not ahead of the snapshot. -/
structure Abreast (leaving : Bool) (pairing : Pairing) (store : Tables) : Prop where
  versioned : store.Versioned
  leaves : pairing.claim.isLeaving = leaving
  given : ∃ number < store.nextVersion, pairing.claim.metadata.version = some (Text.decimal number)
  seen : ∀ stored, store.find? .claim pairing.claim.key = some stored →
    stored.metadata.version = pairing.claim.metadata.version →
    stored.progress ≤ pairing.claim.progress ∧ stored.isLeaving = leaving

namespace Abreast

variable {leaving : Bool} {pairing : Pairing} {before after : Tables}

theorem of_found {claim : Claim} {key : ObjectKey} (space : String) (versioned : store.Versioned)
    (found : store.find? .claim key = some claim) : Abreast claim.isLeaving (.of claim space) store where
  versioned := versioned
  leaves := rfl
  given := versioned.numbered found
  seen stored found' _ := by
    have own : claim.key = key := Tables.keyed_find? store .claim key claim found
    have same : store.find? .claim claim.key = some stored := found'
    rw [own] at same
    cases found.symm.trans same
    exact ⟨le_rfl, rfl⟩

theorem forward (abreast : Abreast leaving pairing before) (forward : Tables.Forward before after) :
    Abreast leaving pairing after where
  versioned := forward.versioned
  leaves := abreast.leaves
  given := by
    obtain ⟨number, earlier, version⟩ := abreast.given
    exact ⟨number, earlier.trans_le forward.later, version⟩
  seen stored found same := by
    rcases forward.dated _ stored found with earlier | fresh
    · exact abreast.seen stored earlier same
    -- A claim written since has a version that was not given out when this one was.
    · obtain ⟨number, earlier, version⟩ := abreast.given
      have next := Text.decimal_inj (Option.some.inj (version.symm.trans (same.symm.trans fresh)))
      exact absurd next earlier.ne

theorem lasting (leaving : Bool) : Lasting (Abreast leaving) where
  versioned := Abreast.versioned
  forward := Abreast.forward
  snapshot {pairing other store} same abreast := by
    obtain ⟨versioned, live, given, seen⟩ := abreast
    rw [← same] at live given seen
    exact ⟨versioned, live, given, seen⟩

theorem changed (abreast : Abreast leaving pairing store) {claim : Claim} (own : claim.key = pairing.claim.key)
    (version : claim.metadata.version = pairing.claim.metadata.version)
    (live : claim.isLeaving = pairing.claim.isLeaving) (ahead : pairing.claim.progress ≤ claim.progress) :
    Abreast leaving (pairing.holding claim) store where
  versioned := abreast.versioned
  leaves := live.trans abreast.leaves
  given := by
    obtain ⟨number, earlier, given⟩ := abreast.given
    exact ⟨number, earlier, version.trans given⟩
  seen stored found same := by
    rw [show (pairing.holding claim).claim.key = pairing.claim.key from own] at found
    obtain ⟨behind, leaves⟩ := abreast.seen stored found (same.trans version)
    exact ⟨behind.trans ahead, leaves⟩

theorem seen_of_match (abreast : Abreast leaving pairing store) {stored : Claim}
    (found : store.find? .claim pairing.claim.key = some stored)
    (matched : WriteRules.matchVersion stored pairing.claim = .ok ()) :
    stored.progress ≤ pairing.claim.progress ∧ stored.isLeaving = leaving := by
  obtain ⟨number, _, given⟩ := abreast.given
  rcases (WriteRules.matchVersion_eq_ok_iff stored pairing.claim).mp matched with unversioned | same
  · cases given.symm.trans unversioned
  · exact abreast.seen stored found same.symm

theorem written (abreast : Abreast leaving pairing store) {after : Tables} (versioned : after.Versioned)
    {stored : Claim} {version : Option String} (found : after.find? .claim pairing.claim.key = some stored)
    (stamped : stored.metadata.version = version) (behind : stored.progress ≤ pairing.claim.progress)
    (leaves : stored.isLeaving = leaving) :
    Abreast leaving (pairing.holding (pairing.claim.withVersion version)) after where
  versioned := versioned
  leaves := abreast.leaves
  given := by
    obtain ⟨number, earlier, given⟩ := versioned.numbered found
    exact ⟨number, earlier, stamped.symm.trans given⟩
  seen other found' _ := by
    cases found.symm.trans found'
    exact ⟨behind, leaves⟩

end Abreast

/-! The operations on a claim keep its snapshot abreast, whether their requests come through or not. -/

namespace Pairing

open Operation

variable {leaving : Bool} {pairing : Pairing}

theorem keeps_writeStatus : Keeps .contended (Abreast leaving) writeStatus := by
  intro pairing store abreast
  simp only [writeStatus, currentClaim, changeClaim, ensures_bind, ensures_get, ensures_pure, ensures_modify,
    ensures_notingFailure]
  refine ensures_ask_contended (.updateStatus pairing.claim) abreast.versioned fun met drifts _ => ?_
  have known := (Abreast.lasting leaving).drifts abreast drifts
  refine ⟨fun stored found matched => (known.seen_of_match found matched).1, fun now forward => ?_, fun _ => known⟩
  cases answered : (Tables.serve (.updateStatus pairing.claim) now met).1 with
  | error failure => exact known.forward forward
  | ok version =>
    obtain ⟨stored, found, matched, after⟩ := Tables.find?_of_updateStatus answered
    obtain ⟨_, leaves⟩ := known.seen_of_match found matched
    exact known.written forward.versioned after rfl (Nat.le_of_eq (Object.progress_of_status rfl)) leaves

theorem keeps_writeClaim : Keeps .contended (Abreast false) writeClaim := by
  intro pairing store abreast
  simp only [writeClaim, currentClaim, changeClaim, ensures_bind, ensures_get, ensures_pure, ensures_modify]
  refine ensures_ask_contended (.update pairing.claim) abreast.versioned fun met drifts _ => ?_
  have known := (Abreast.lasting false).drifts abreast drifts
  refine ⟨trivial, fun now forward => ?_, fun _ => known⟩
  cases answered : (Tables.serve (.update pairing.claim) now met).1 with
  | error failure => exact known.forward forward
  | ok version =>
    obtain ⟨stored, found, matched, after⟩ := Tables.find?_of_update answered
    obtain ⟨behind, live⟩ := known.seen_of_match found matched
    have stays : WriteRules.isReleased (WriteRules.revise stored pairing.claim) = false :=
      Bool.and_eq_false_iff.mpr (.inl live)
    exact known.written forward.versioned (after stays) rfl behind live

theorem ensures_write {write : Operation Unit} (keeps : Keeps .contended (Abreast leaving) write)
    (abreast : Abreast leaving pairing store) (changed : Claim) (own : changed.key = pairing.claim.key)
    (version : changed.metadata.version = pairing.claim.metadata.version)
    (live : changed.isLeaving = pairing.claim.isLeaving) (ahead : pairing.claim.progress ≤ changed.progress) :
    (do write; return Change.modified : Operation Change).Ensures .contended (fun _ => Abreast leaving)
      (pairing.holding changed) store :=
  (Keeps.bind keeps fun _ => .pure _) _ _ (abreast.changed own version live ahead)

theorem keeps_openConditions : Keeps .contended (Abreast leaving) openConditions := by
  intro pairing store abreast
  simp only [openConditions, currentClaim, changeClaim, ensures_bind, ensures_get, ensures_pure]
  split
  · exact abreast
  · simp only [ensures_bind, ensures_modify]
    exact (ensures_bind _ _).mp (ensures_write keeps_writeStatus abreast pairing.claim.opened rfl rfl rfl le_rfl)

theorem keeps_enterPhase (target : ClaimPhase) : Keeps .contended (Abreast leaving) (enterPhase target) := by
  intro pairing store abreast
  simp only [enterPhase, currentClaim, changeClaim, note, ensures_bind, ensures_get, ensures_pure]
  cases follows : target.canFollow pairing.claim.status.phase with
  | false => exact abreast
  | true =>
    simp only [Bool.not_true, Bool.false_eq_true, ↓reduceIte, ensures_bind, ensures_note, ensures_modify]
    refine (ensures_bind _ _).mp (ensures_write keeps_writeStatus abreast (pairing.claim.inPhase target) rfl rfl rfl ?_)
    exact ClaimPhase.rank_le_of_canFollow follows

theorem keeps_recordCondition (update : ConditionUpdate) :
    Keeps .contended (Abreast leaving) (recordCondition update) := by
  intro pairing store abreast
  simp only [recordCondition, currentClaim, changeClaim, ensures_bind, ensures_clock, ensures_get, ensures_pure]
  intro now
  cases updated : pairing.claim.status.update? update now with
  | none => exact abreast
  | some status =>
    obtain ⟨conditions, _, rfl⟩ := Option.map_eq_some_iff.mp updated
    simp only [ensures_bind, ensures_modify]
    have written := ensures_write keeps_writeStatus abreast
      (pairing.claim.withStatus { pairing.claim.status with conditions := some conditions }) rfl rfl rfl le_rfl
    exact (ensures_bind _ _).mp written

theorem keeps_linkReference : Keeps .contended (Abreast false) linkReference := by
  intro pairing store abreast
  simp only [linkReference, changeClaim, note, ensures_bind, ensures_get]
  split
  · exact abreast
  · simp only [ensures_bind, ensures_note, ensures_modify]
    have written := ensures_write keeps_writeClaim abreast (pairing.claim.linkedTo pairing.referenceKey) rfl rfl rfl
      le_rfl
    exact (ensures_bind _ _).mp written

theorem keeps_holdClaim : Keeps .contended (Abreast false) holdClaim := by
  intro pairing store abreast
  simp only [holdClaim, currentClaim, changeClaim, note, ensures_bind, ensures_get, ensures_pure]
  split
  · exact abreast
  · simp only [ensures_bind, ensures_note, ensures_modify, ensures_notingFailure]
    exact (ensures_bind _ _).mp (ensures_write keeps_writeClaim abreast pairing.claim.addMarker rfl rfl rfl le_rfl)

end Pairing

namespace Pass

open Operation Pairing

theorem keeps_stages : ∀ stage ∈ stages, Keeps .contended (Abreast false) stage.operation := by
  intro stage member
  simp only [stages, List.mem_cons, List.not_mem_nil, or_false] at member
  obtain rfl | rfl | rfl | rfl | rfl | rfl := member
  · exact keeps_openConditions
  · exact keeps_enterPhase .pending
  · exact keeps_linkReference
  · exact keeps_holdClaim
  · exact (Abreast.lasting false).keeps_provideReference
  · exact keeps_enterPhase .pendingProject

theorem ensures_run_contended {leaving : Bool} {pairing : Pairing} (abreast : Abreast leaving pairing store) :
    run.Ensures .contended (fun _ _ store => store.Versioned) pairing store := by
  simp only [run, currentClaim, ensures_bind, ensures_get, ensures_pure]
  cases leaving with
  | false =>
    rw [abreast.leaves, if_neg Bool.false_ne_true]
    exact (keeps_runLive keeps_recordCondition keeps_stages _ _ abreast).mono fun _ _ _ kept => kept.versioned
  | true =>
    rw [abreast.leaves, if_pos rfl]
    exact keeps_runDeleted _ _ abreast.versioned

end Pass

end ClaimOperator

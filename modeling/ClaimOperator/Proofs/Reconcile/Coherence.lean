import ClaimOperator.Proofs.Reconcile.Calls
import ClaimOperator.Proofs.Store.Versions
import ClaimOperator.Proofs.Workflow.Deletion

/-! A pair in front of a store in memory that nobody else writes to, and in which no request is made to fail.

As long as the claim is stored the snapshot is what is stored, to the version, whatever calls were made in which
order. So no call meets a conflict, and what a call says about its writes is what has become of the records.
-/

set_option autoImplicit false

namespace ClaimOperator

inductive Entry.Changes {kind : Kind} : Entry kind → Entry kind → Prop
  | created (object : Object kind) : Changes none (some object)
  | rewritten {stored object : Object kind} : object.metadata.version ≠ stored.metadata.version →
    Changes (some stored) (some object)
  | removed (stored : Object kind) : Changes (some stored) none

/-- Exactly one record was created, rewritten under a new version, or removed. -/
def Contents.ChangesOne (before after : Contents) : Prop :=
  ∃ kind key, ∃ entry : Entry kind, after = before.set kind key entry ∧ Entry.Changes (before kind key) entry

theorem Contents.ChangesOne.ne {before after : Contents} (changes : before.ChangesOne after) : after ≠ before := by
  obtain ⟨kind, key, entry, rfl, changed⟩ := changes
  intro same
  have stays : before kind key = entry := by
    rw [← set_self before kind key entry, same]
  rw [stays] at changed
  cases changed with
  | rewritten differs => exact differs rfl

/-- Another claim that a write of this half stores as it is. -/
structure Half.Revises (half : Half) (claim changed : Claim) : Prop where
  key : changed.key = claim.key
  version : changed.metadata.version = claim.metadata.version
  merged : half.merge claim changed = changed

theorem Half.versioned_serve (half : Half) {store : Tables} (versioned : store.Versioned) (now : Timestamp)
    (claim : Claim) : (half.serve Tables.serve now claim store).2.Versioned := by
  cases half with
  | body => exact versioned.serve (.update claim) now
  | status => exact versioned.serve (.updateStatus claim) now

theorem Aim.revises_of_plan? {aim : Aim} {link : ObjectKey} {claim changed : Claim}
    (planned : aim.plan? link claim = some changed) : aim.half.Revises claim changed := by
  cases aim <;>
    · simp only [plan?, Option.ite_none_left_eq_some, Option.ite_none_right_eq_some, Option.some.injEq] at planned
      obtain ⟨-, rfl⟩ := planned
      exact ⟨rfl, rfl, rfl⟩

namespace Tables

variable {store : Tables} {kind : Kind} {key : ObjectKey} {object : Object kind}

theorem serve_get_of_found (found : store.find? kind key = some object) (now : Timestamp) :
    serve (.get kind key) now store = (.ok object, store) := by
  simp only [serve_get, found]

theorem serve_get_of_absent (absent : store.find? kind key = none) (now : Timestamp) :
    serve (.get kind key) now store = (.error (.store (.notFound kind key)), store) := by
  simp only [serve_get, absent]

theorem serve_create_of_absent (object : Object kind) (absent : store.find? kind object.key = none) (now : Timestamp) :
    serve (.create object) now store = (.ok (some store.freshVersion), store.save (WriteRules.newborn object)) := by
  simp only [serve_create, absent]

theorem failure_of_delete {now : Timestamp} {failure : Failure} {after : Tables}
    (deleted : serve (.delete object) now store = (.error failure, after)) :
    failure = .store (.notFound kind object.key) := by
  rw [serve_delete] at deleted
  split at deleted
  · split at deleted <;> cases deleted
  · cases deleted
    rfl

end Tables

inductive Chore where
  | duty (duty : Duty)
  | condition (update : ConditionUpdate)
  | discard

def Chore.operation : Chore → Operation (Option Change)
  | duty intended => some <$> intended.operation
  | condition update => some <$> Pairing.recordCondition update
  | discard => (fun _ => none) <$> Pairing.discardReference

/-- What a call said of its writes is so; or it failed, because the claim is gone, and wrote nothing. -/
inductive Honest (key : ObjectKey) (before after : Contents) : Except Failure Change → Prop
  | unchanged : after = before → Honest key before after (.ok .unchanged)
  | modified : before.ChangesOne after → Honest key before after (.ok .modified)
  | gone : before .claim key = none → after = before →
    Honest key before after (.error (.store (.notFound .claim key)))

theorem Honest.tells {key : ObjectKey} {before after : Contents} {change : Change}
    (honest : Honest key before after (.ok change)) :
    (change = .unchanged ↔ after = before) ∧ (change = .modified ↔ before.ChangesOne after) := by
  cases honest with
  | unchanged same => exact ⟨iff_of_true rfl same, iff_of_false nofun fun changes => changes.ne same⟩
  | modified changes => exact ⟨iff_of_false nofun changes.ne, iff_of_true rfl changes⟩

theorem Honest.fails {key : ObjectKey} {before after : Contents} {failure : Failure}
    (honest : Honest key before after (.error failure)) :
    failure = .store (.notFound .claim key) ∧ before .claim key = none ∧ after = before := by
  cases honest with
  | gone absent same => exact ⟨rfl, absent, same⟩

namespace Custody

variable {key : ObjectKey} {custody : Custody Tables} {now : Timestamp}

/-- As long as the claim is stored, the snapshot is what is stored. -/
structure Coherent (key : ObjectKey) (custody : Custody Tables) : Prop where
  versioned : custody.store.Versioned
  own : custody.claim.key = key
  current : ∀ stored, custody.store.find? .claim key = some stored → custody.claim = stored

theorem Coherent.amend (coherent : custody.Coherent key) {half : Half} {plan : Option Claim}
    (revises : ∀ changed, plan = some changed → half.Revises custody.claim changed) :
    let (outcome, after) := custody.amend Tables.serve now half plan
    after.Coherent key ∧ Honest key custody.store.find? after.store.find? outcome := by
  cases plan with
  | none => exact ⟨coherent, .unchanged rfl⟩
  | some changed =>
    obtain ⟨own, version, merged⟩ := revises changed rfl
    have own : changed.key = key := own.trans coherent.own
    have served := half.served_tables now changed custody.store
    have versioned := half.versioned_serve coherent.versioned now changed
    cases answered : half.serve Tables.serve now changed custody.store with
    | mk answer store =>
    rw [answered] at served versioned
    generalize reached : (answer, Tables.find? store) = pair at served
    cases served with
    | @kept stored found =>
      obtain ⟨rfl, left⟩ := Prod.mk.inj reached
      rw [own] at found left
      obtain rfl := coherent.current stored found
      -- The other half of what is stored is that of the snapshot, so nothing is lost in the merge.
      rw [merged] at left
      rw [amend_of_ok answered]
      refine ⟨⟨versioned, own, ?_⟩, .modified ⟨.claim, key, _, left, ?_⟩⟩
      · intro other stored
        rw [left, Contents.set_self] at stored
        exact Option.some.inj stored
      · rw [found]
        exact .rewritten (Ne.symm (coherent.versioned.ne_fresh found))
    | @left stored found =>
      obtain ⟨rfl, left⟩ := Prod.mk.inj reached
      rw [own] at found left
      rw [amend_of_ok answered]
      refine ⟨⟨versioned, own, ?_⟩, .modified ⟨.claim, key, _, left, ?_⟩⟩
      · intro other stored
        rw [left, Contents.set_self] at stored
        cases stored
      · rw [found]
        exact .removed stored
    | absent absent =>
      obtain ⟨rfl, left⟩ := Prod.mk.inj reached
      rw [own] at absent answered
      rw [amend_of_error answered]
      refine ⟨⟨versioned, own, ?_⟩, .gone absent left⟩
      intro other stored
      rw [left, absent] at stored
      cases stored
    | @stale stored error found refused =>
      rw [own] at found
      obtain rfl := coherent.current stored found
      -- No change touches the version, so a snapshot that is stored is never stale.
      have matched := (WriteRules.matchVersion_eq_ok_iff custody.claim changed).mpr (.inr version)
      cases refused.symm.trans matched

theorem Coherent.serve (coherent : custody.Coherent key) (request : StoreRequest) (kind : request.kind = .reference)
    (now : Timestamp) (pairing : Pairing) (held : pairing.claim = custody.claim) :
    Coherent key ⟨pairing, (Tables.serve request now custody.store).2⟩ where
  versioned := coherent.versioned.serve request now
  own := (congrArg Object.key held).trans coherent.own
  current stored found := by
    obtain before | ⟨here, -⟩ := Tables.find?_serve found
    · exact held.trans (coherent.current stored before)
    · rw [kind] at here
      cases here

theorem Coherent.provide (coherent : custody.Coherent key) (now : Timestamp) :
    let (outcome, after) := custody.call Tables.serve now Pairing.provideReference
    (after.Coherent key ∧ Honest key custody.store.find? after.store.find? outcome) ∧
      (after.store.find? .reference after.link).isSome = true := by
  have ensures : Pairing.provideReference.Ensures (.exact Tables.serve now)
      (fun outcome pairing store =>
        (Coherent key ⟨pairing, store⟩ ∧ Honest key custody.store.find? store.find? outcome) ∧
          (store.find? .reference pairing.referenceKey).isSome = true) custody.pairing custody.store := by
    cases stored : custody.store.find? .reference custody.link with
    | some reference =>
      have look := Tables.serve_get_of_found stored now
      refine ensures_provideReference ?_ ?_ ?_
      · intro found after looked
        cases look.symm.trans looked
        exact ⟨⟨⟨coherent.versioned, coherent.own, coherent.current⟩, .unchanged rfl⟩,
          Option.isSome_of_eq_some stored⟩
      · intro error after looked
        cases look.symm.trans looked
      · intro failure after looked
        cases look.symm.trans looked
    | none =>
      have look := Tables.serve_get_of_absent stored now
      have creation := Tables.serve_create_of_absent custody.pairing.reference stored now
      refine ensures_provideReference ?_ ?_ ?_
      · intro found after looked
        cases look.symm.trans looked
      · intro error after looked _
        cases look.symm.trans looked
        have created : Coherent key ⟨_, _⟩ := coherent.serve (.create custody.pairing.reference) rfl now
          { custody.pairing with
            reference := custody.pairing.reference.withVersion (some custody.store.freshVersion), found := none } rfl
        rw [creation] at created ⊢
        have left := Tables.find?_save custody.store (WriteRules.newborn custody.pairing.reference)
        refine ⟨⟨created, .modified ⟨.reference, custody.link, _, left, ?_⟩⟩, ?_⟩
        · rw [stored]
          exact .created _
        · rw [left]
          exact congrArg Option.isSome (Contents.set_self _ _ _ _)
      · intro failure after looked other
        cases look.symm.trans looked
        exact absurd rfl (other _ rfl)
  exact call_of_ensures ensures

theorem call_provide_of_found (stored : (custody.store.find? .reference custody.link).isSome = true) (now : Timestamp) :
    (custody.call Tables.serve now Pairing.provideReference).1 = .ok .unchanged := by
  obtain ⟨reference, found⟩ := Option.isSome_iff_exists.1 stored
  have look := Tables.serve_get_of_found found now
  have ensures : Pairing.provideReference.Ensures (.exact Tables.serve now)
      (fun outcome _ _ => outcome = .ok .unchanged) custody.pairing custody.store := by
    refine ensures_provideReference (fun _ _ _ => rfl) ?_ ?_
    · intro error after looked
      cases look.symm.trans looked
    · intro failure after looked
      cases look.symm.trans looked
  exact call_of_ensures ensures

theorem Coherent.discard (coherent : custody.Coherent key) (now : Timestamp) :
    let (outcome, after) := custody.call Tables.serve now Pairing.discardReference
    outcome = .ok () ∧ after.Coherent key := by
  have ensures : Pairing.discardReference.Ensures (.exact Tables.serve now)
      (fun outcome pairing store => outcome = .ok () ∧ Coherent key ⟨pairing, store⟩)
      custody.pairing custody.store := by
    refine ensures_discardReference ?_ ?_
    · intro answer after deleted _
      have left := coherent.serve (.delete (custody.pairing.found.getD custody.pairing.reference)) rfl now
        custody.pairing rfl
      rw [deleted] at left
      exact ⟨rfl, left⟩
    · intro failure after deleted other
      exact absurd rfl (other _ (Tables.failure_of_delete deleted))
  exact call_of_ensures ensures

theorem Coherent.duty (coherent : custody.Coherent key) (duty : Duty) (now : Timestamp) :
    let (outcome, after) := custody.call Tables.serve now duty.operation
    after.Coherent key ∧ Honest key custody.store.find? after.store.find? outcome := by
  cases duty with
  | aim aim =>
    rw [Duty.operation, call_aim]
    exact coherent.amend fun changed planned => Aim.revises_of_plan? planned
  | reference => exact (coherent.provide now).1

theorem Coherent.condition (coherent : custody.Coherent key) (update : ConditionUpdate) (now : Timestamp) :
    let (outcome, after) := custody.call Tables.serve now (Pairing.recordCondition update)
    after.Coherent key ∧ Honest key custody.store.find? after.store.find? outcome := by
  rw [call_recordCondition]
  refine coherent.amend fun changed planned => ?_
  obtain ⟨status, -, rfl⟩ := Option.map_eq_some_iff.mp planned
  exact ⟨rfl, rfl, rfl⟩

/-- A duty that was done needs nothing more, and one that failed has changed the snapshot all the same. -/
theorem Coherent.repeated (coherent : custody.Coherent key) (duty : Duty) (now later : Timestamp) :
    ((custody.call Tables.serve now duty.operation).2.call Tables.serve later duty.operation).1 = .ok .unchanged := by
  cases duty with
  | aim aim =>
    have idle := plan?_after Tables.serve custody aim now
    simp only [Duty.operation]
    rw [call_aim, idle]
    rfl
  | reference => exact call_provide_of_found (coherent.provide now).2 later

theorem Coherent.chore (coherent : custody.Coherent key) (chore : Chore) (now : Timestamp) :
    (custody.call Tables.serve now chore.operation).2.Coherent key := by
  cases chore <;> rw [Chore.operation, call_map]
  case duty duty => exact (coherent.duty duty now).1
  case condition update => exact (coherent.condition update now).1
  case discard => exact (coherent.discard now).2

theorem Coherent.after (coherent : custody.Coherent key) (chores : List (Chore × Timestamp)) :
    (custody.after Tables.serve Chore.operation chores).Coherent key := by
  induction chores generalizing custody with
  | nil => exact coherent
  | cons chore rest ih => exact ih (coherent.chore chore.1 chore.2)

theorem Coherent.honest (coherent : custody.Coherent key) (chore : Chore) (now : Timestamp) :
    (custody.call Tables.serve now chore.operation).1 = .ok none ∨
      ∃ told, (custody.call Tables.serve now chore.operation).1 = told.map some ∧
        Honest key custody.store.find? (custody.call Tables.serve now chore.operation).2.store.find? told := by
  cases chore <;> rw [Chore.operation, call_map]
  case duty duty => exact .inr ⟨_, rfl, (coherent.duty duty now).2⟩
  case condition update => exact .inr ⟨_, rfl, (coherent.condition update now).2⟩
  case discard =>
    have outcome := (coherent.discard now).1
    exact .inl (congrArg (Except.map fun _ => none) outcome)

/-- The snapshot is what is stored under the key, and what calls say is what they have done. -/
structure Faithful (key : ObjectKey) (custody : Custody Tables) : Prop where
  snapshot : ∀ stored, custody.store.find? .claim key = some stored → custody.claim = stored
  -- No call fails for any other reason than that the claim is gone, so none meets a conflict.
  fails : ∀ chore now failure, (custody.call Tables.serve now (Chore.operation chore)).1 = .error failure →
    failure = .store (.notFound .claim key) ∧ custody.store.find? .claim key = none ∧
      (custody.call Tables.serve now chore.operation).2.store.find? = custody.store.find?
  tells : ∀ chore now change, (custody.call Tables.serve now (Chore.operation chore)).1 = .ok (some change) →
    (change = .unchanged ↔
      (custody.call Tables.serve now chore.operation).2.store.find? = custody.store.find?) ∧
    (change = .modified ↔
      Contents.ChangesOne custody.store.find? (custody.call Tables.serve now chore.operation).2.store.find?)
  repeated : ∀ duty now later,
    ((custody.call Tables.serve now (Duty.operation duty)).2.call Tables.serve later duty.operation).1 = .ok .unchanged

theorem Coherent.faithful (coherent : custody.Coherent key) : custody.Faithful key where
  snapshot := coherent.current
  fails chore now failure failed := by
    obtain returned | ⟨told, outcome, honest⟩ := coherent.honest chore now
    · cases failed.symm.trans returned
    · rw [outcome] at failed
      cases told with
      | ok change => cases failed
      | error failure =>
        cases failed
        exact honest.fails
  tells chore now change told := by
    obtain returned | ⟨told', outcome, honest⟩ := coherent.honest chore now
    · cases told.symm.trans returned
    · rw [outcome] at told
      cases told' with
      | ok change =>
        cases told
        exact honest.tells
      | error failure => cases told
  repeated duty now later := coherent.repeated duty now later

/-- A pair is made of a claim that was just read. After any calls in any order, the snapshot is what is stored as long
as there is anything, and the next call, whichever it is, says what it does. -/
theorem calls_faithful (store : Tables) (reached : LocalStore.Reached store) (claim : Claim)
    (found : store.find? .claim claim.key = some claim) (space : String) (chores : List (Chore × Timestamp)) :
    Faithful claim.key ((Custody.mk (.of claim space) store).after Tables.serve Chore.operation chores) := by
  have fresh : Coherent claim.key ⟨.of claim space, store⟩ := {
    versioned := (LocalStore.Reached.counted_present reached).1
    own := rfl
    current := fun stored same => Option.some.inj (found.symm.trans same) }
  exact (fresh.after chores).faithful

def newClaim : Claim :=
  ⟨{ key := ⟨"customer", "my-claim"⟩, version := some "1" }, { legalEntity := ⟨"Example Corp", "entity-1"⟩ }, {}⟩

def newStore : Tables := (Tables.serve (.create newClaim) .epoch {}).2

def wholeLife : List (Chore × Timestamp) :=
  [.duty (.aim .opened), .duty (.aim (.inPhase .pending)), .duty (.aim .linked), .duty (.aim .held), .duty .reference,
    .condition ⟨.isTrue, "Failed", "refused"⟩, .discard, .duty (.aim .released)].map (·, .epoch)

/-- After calls of every kind the claim is still there, and the snapshot is what is stored. -/
theorem faithful_wholeLife : ∃ stored,
    ((Custody.mk (.of newClaim "operator") newStore).after Tables.serve Chore.operation wholeLife).store.find? .claim
      newClaim.key = some stored ∧
    ((Custody.mk (.of newClaim "operator") newStore).after Tables.serve Chore.operation wholeLife).claim = stored := by
  have reached : LocalStore.Reached newStore := .served (.create newClaim) .epoch .empty
  have found : newStore.find? .claim newClaim.key = some newClaim := by decide +kernel
  have kept : (((Custody.mk (.of newClaim "operator") newStore).after Tables.serve Chore.operation
      wholeLife).store.find? .claim newClaim.key).isSome = true := by decide +kernel
  obtain ⟨stored, same⟩ := Option.isSome_iff_exists.1 kept
  exact ⟨stored, same, (calls_faithful newStore reached newClaim found "operator" wholeLife).snapshot stored same⟩

end Custody

end ClaimOperator

import ClaimOperator.Proofs.Reconcile.Coherence
import Mathlib.Data.List.Induction

/-! What `unchanged` says about a store in memory in which requests may be made to fail.

An operation looks at the snapshot, and the snapshot is changed before the change is written. So a call that is
repeated after its write has failed finds nothing to do, although the store never saw the change. From then on the
change is owed, until a later call writes the same half of the claim and takes it along. Nothing else comes between
the snapshot and the store.
-/

set_option autoImplicit false

namespace ClaimOperator

namespace Aim

variable {aim other : Aim} {half : Half} {link : ObjectKey} {claim changed stored incoming : Claim}

theorem holdsOf_merge : aim.HoldsOf link (aim.half.merge stored incoming) ↔ aim.HoldsOf link incoming := by
  cases aim <;> rfl

theorem holdsOf_merge_of_ne (elsewhere : half ≠ aim.half) :
    aim.HoldsOf link (half.merge stored incoming) ↔ aim.HoldsOf link stored := by
  cases aim <;> cases half <;> first | rfl | exact absurd rfl elsewhere

theorem holdsOf_of_other (planned : other.plan? link claim = some changed) (different : other ≠ aim)
    (holds : aim.HoldsOf link changed) : aim.HoldsOf link claim := by
  cases other <;>
    · simp only [plan?, Option.ite_none_left_eq_some, Option.ite_none_right_eq_some, Option.some.injEq] at planned
      obtain ⟨-, rfl⟩ := planned
      -- Most changes touch nothing that the aim looks at; the others are for its opposite.
      cases aim <;> first | exact holds | simp_all [HoldsOf, Object.inPhase]

theorem holdsOf_of_unplanned (idle : aim.plan? link claim = none)
    (entered : ∀ target, aim = .inPhase target → claim.status.phase = some target) : aim.HoldsOf link claim := by
  cases aim with
  | inPhase target => exact entered target rfl
  | opened => simpa [plan?, HoldsOf, Option.isSome_iff_ne_none] using idle
  | _ => simpa [plan?, HoldsOf] using idle

end Aim

/-! Requests that a plan may make to fail. -/

theorem Service.scheduled_cases {σ : Type} (serve : Service σ) (request : StoreRequest) (now : Timestamp)
    (state : Scheduled σ) :
    (∃ error, (serve.scheduled request now state).1 = .error (.store error) ∧
      (serve.scheduled request now state).2.store = state.store) ∨
    ((serve.scheduled request now state).1, (serve.scheduled request now state).2.store) =
      serve request now state.store := by
  obtain ⟨store, plan⟩ := state
  match plan with
  | some error :: _ => exact .inl ⟨error, rfl, rfl⟩
  | none :: _ | [] => exact .inr rfl

namespace Half

variable {contents : Contents} {incoming : Claim}

inductive Attempted (half : Half) (incoming : Claim) (contents : Contents) :
    Except Failure (Option String) × Contents → Prop
  | refused (failure : Failure) : Attempted half incoming contents (.error failure, contents)
  | kept {stored : Claim} (version : Option String) : contents .claim incoming.key = some stored →
    Attempted half incoming contents (.ok version,
      contents.set .claim incoming.key (some ((half.merge stored incoming).withVersion version)))
  | left : Attempted half incoming contents (.ok none, contents.set .claim incoming.key none)

theorem Served.attempted {half : Half} {fresh : String} {result : Except Failure (Option String) × Contents}
    (served : half.Served fresh incoming contents result) : half.Attempted incoming contents result := by
  cases served with
  | kept found => exact .kept _ found
  | left => exact .left
  | absent | stale => exact .refused _

theorem attempted_scheduled (half : Half) (now : Timestamp) (incoming : Claim) (state : Scheduled Tables) :
    half.Attempted incoming state.store.find?
      ((half.serve (Service.scheduled Tables.serve) now incoming state).1,
        (half.serve (Service.scheduled Tables.serve) now incoming state).2.store.find?) := by
  have served := half.served_tables now incoming state.store
  have passed : (∃ error, (half.serve (Service.scheduled Tables.serve) now incoming state).1 = .error (.store error) ∧
      (half.serve (Service.scheduled Tables.serve) now incoming state).2.store = state.store) ∨
      ((half.serve (Service.scheduled Tables.serve) now incoming state).1,
        (half.serve (Service.scheduled Tables.serve) now incoming state).2.store) =
          half.serve Tables.serve now incoming state.store := by
    cases half with
    | body => exact Service.scheduled_cases Tables.serve (.update incoming) now state
    | status => exact Service.scheduled_cases Tables.serve (.updateStatus incoming) now state
  obtain ⟨error, failed, same⟩ | same := passed
  · rw [failed, same]
    exact .refused _
  · rw [← same] at served
    exact served.attempted

end Half

def Duty.half? : Duty → Option Half
  | aim intended => some intended.half
  | reference => none

namespace Custody

variable {custody start : Custody (Scheduled Tables)} {aim : Aim} {now : Timestamp}

abbrev contents (custody : Custody (Scheduled Tables)) : Contents := custody.store.store.find?

inductive Came (aim : Aim) (before : Custody (Scheduled Tables)) :
    Except Failure Change → Custody (Scheduled Tables) → Prop
  | idle : aim.plan? before.link before.claim = none → Came aim before (.ok .unchanged) before
  | refused {changed : Claim} {state : Scheduled Tables} (failure : Failure) :
    aim.plan? before.link before.claim = some changed → state.store.find? = before.contents →
    Came aim before (.error failure) ⟨before.pairing.holding changed, state⟩
  | kept {changed stored : Claim} {state : Scheduled Tables} (version : Option String) :
    aim.plan? before.link before.claim = some changed → before.contents .claim before.claim.key = some stored →
    state.store.find? =
      before.contents.set .claim before.claim.key (some ((aim.half.merge stored changed).withVersion version)) →
    Came aim before (.ok .modified) ⟨before.pairing.holding (changed.withVersion version), state⟩
  | left {changed : Claim} {state : Scheduled Tables} :
    aim.plan? before.link before.claim = some changed →
    state.store.find? = before.contents.set .claim before.claim.key none →
    Came aim before (.ok .modified) ⟨before.pairing.holding (changed.withVersion none), state⟩

theorem came (custody : Custody (Scheduled Tables)) (aim : Aim) (now : Timestamp) :
    Came aim custody (custody.call (Service.scheduled Tables.serve) now aim.operation).1
      (custody.call (Service.scheduled Tables.serve) now aim.operation).2 := by
  rw [call_aim]
  cases planned : aim.plan? custody.link custody.claim with
  | none => exact .idle planned
  | some changed =>
    have attempted := aim.half.attempted_scheduled now changed custody.store
    have own := (Aim.revises_of_plan? planned).key
    cases answered : aim.half.serve (Service.scheduled Tables.serve) now changed custody.store with
    | mk answer state =>
    rw [answered] at attempted
    generalize reached : (answer, state.store.find?) = pair at attempted
    cases attempted with
    | refused failure =>
      obtain ⟨rfl, same⟩ := Prod.mk.inj reached
      rw [amend_of_error answered]
      exact .refused failure planned same
    | kept version found =>
      obtain ⟨rfl, written⟩ := Prod.mk.inj reached
      rw [own] at found written
      rw [amend_of_ok answered]
      exact .kept version planned found written
    | left =>
      obtain ⟨rfl, removed⟩ := Prod.mk.inj reached
      rw [own] at removed
      rw [amend_of_ok answered]
      exact .left planned removed

/-- The claim is stored under the key, and this holds of what is stored. -/
def Keeps (aim : Aim) (key link : ObjectKey) (custody : Custody (Scheduled Tables)) : Prop :=
  ∃ stored, custody.contents .claim key = some stored ∧ aim.HoldsOf link stored

/-- It holds of the snapshot, and not of what is stored. -/
def Behind (aim : Aim) (key link : ObjectKey) (custody : Custody (Scheduled Tables)) : Prop :=
  aim.HoldsOf link custody.claim ∧ ∃ stored, custody.contents .claim key = some stored ∧ ¬ aim.HoldsOf link stored

theorem not_keeps_of_lacks {key link : ObjectKey} {stored : Claim} (found : custody.contents .claim key = some stored)
    (lacks : ¬ aim.HoldsOf link stored) : ¬ custody.Keeps aim key link := by
  rintro ⟨other, found', holds⟩
  cases found.symm.trans found'
  exact lacks holds

theorem Came.same {before after : Custody (Scheduled Tables)} {outcome : Except Failure Change}
    (came : Came aim before outcome after) : after.claim.key = before.claim.key ∧ after.link = before.link := by
  cases came with
  | idle => exact ⟨rfl, rfl⟩
  | refused failure planned => exact ⟨(Aim.revises_of_plan? planned).key, rfl⟩
  | kept version planned => exact ⟨(Aim.revises_of_plan? planned).key, rfl⟩
  | left planned => exact ⟨(Aim.revises_of_plan? planned).key, rfl⟩

theorem Came.of_unchanged {before after : Custody (Scheduled Tables)} {outcome : Except Failure Change}
    (came : Came aim before outcome after) (told : outcome = .ok .unchanged) :
    aim.plan? before.link before.claim = none ∧ after = before := by
  cases came with
  | idle idle => exact ⟨idle, rfl⟩
  | refused | kept | left => cases told

section Steps

variable {other : Aim} {before after : Custody (Scheduled Tables)} {outcome : Except Failure Change}
variable {key link : ObjectKey}

theorem Came.keeps (came : Came other before outcome after) (own : before.claim.key = key)
    (skips : ¬ (outcome = .ok .modified ∧ other.half = aim.half)) (keeps : after.Keeps aim key link) :
    before.Keeps aim key link := by
  subst own
  obtain ⟨stored, found, holds⟩ := keeps
  cases came with
  | idle => exact ⟨stored, found, holds⟩
  | refused failure planned same =>
    rw [contents, same] at found
    exact ⟨stored, found, holds⟩
  | @kept changed earlier state version planned found' written =>
    have elsewhere : other.half ≠ aim.half := fun same => skips ⟨rfl, same⟩
    rw [contents, written, Contents.set_self] at found
    cases found
    exact ⟨earlier, found', (Aim.holdsOf_merge_of_ne elsewhere).mp ((Aim.holdsOf_withVersion version).mp holds)⟩
  | @left changed state planned removed =>
    rw [contents, removed, Contents.set_self] at found
    cases found

/-- What is stored falls behind the snapshot only when its own call fails, and then until its half is written. -/
theorem Came.behind (came : Came other before outcome after) (own : before.claim.key = key)
    (linked : before.link = link) (behind : after.Behind aim key link) :
    ¬ (outcome = .ok .modified ∧ other.half = aim.half) ∧
      (before.Behind aim key link ∨
        other = aim ∧ (∃ failure, outcome = .error failure) ∧ ¬ before.Keeps aim key link) := by
  subst own linked
  obtain ⟨holds, stored, found, lacks⟩ := behind
  cases came with
  | idle => exact ⟨nofun, .inl ⟨holds, stored, found, lacks⟩⟩
  | @refused changed state failure planned same =>
    rw [contents, same] at found
    refine ⟨nofun, ?_⟩
    by_cases its : other = aim
    · exact .inr ⟨its, ⟨failure, rfl⟩, not_keeps_of_lacks found lacks⟩
    · exact .inl ⟨Aim.holdsOf_of_other planned its holds, stored, found, lacks⟩
  | @kept changed earlier state version planned found' written =>
    have holds := (Aim.holdsOf_withVersion version).mp holds
    rw [contents, written, Contents.set_self] at found
    cases found
    rw [Aim.holdsOf_withVersion] at lacks
    -- A write of its own half would have stored what the snapshot has.
    have elsewhere : other.half ≠ aim.half := by
      intro same
      rw [same, Aim.holdsOf_merge] at lacks
      exact lacks holds
    rw [Aim.holdsOf_merge_of_ne elsewhere] at lacks
    have different : other ≠ aim := fun same => elsewhere (congrArg Aim.half same)
    exact ⟨fun wrote => elsewhere wrote.2, .inl ⟨Aim.holdsOf_of_other planned different holds, earlier, found', lacks⟩⟩
  | @left changed state planned removed =>
    rw [contents, removed, Contents.set_self] at found
    cases found

end Steps

structure SameClaims (before after : Custody (Scheduled Tables)) : Prop where
  claim : after.claim = before.claim
  link : after.link = before.link
  stored : ∀ key, after.contents .claim key = before.contents .claim key

theorem SameClaims.keeps {before after : Custody (Scheduled Tables)} {key link : ObjectKey}
    (same : before.SameClaims after) (keeps : after.Keeps aim key link) : before.Keeps aim key link := by
  rwa [Keeps, same.stored] at keeps

theorem SameClaims.behind {before after : Custody (Scheduled Tables)} {key link : ObjectKey}
    (same : before.SameClaims after) (behind : after.Behind aim key link) : before.Behind aim key link := by
  rwa [Behind, same.claim, same.stored] at behind

theorem claims_serve_reference (request : StoreRequest) (kind : request.kind = .reference) (now : Timestamp)
    (state : Scheduled Tables) (key : ObjectKey) :
    (Service.scheduled Tables.serve request now state).2.store.find? .claim key = state.store.find? .claim key := by
  obtain ⟨-, -, same⟩ | same := Service.scheduled_cases Tables.serve request now state
  · rw [same]
  · obtain ⟨entry, written, -⟩ := Contents.serve_writes state.store.freshVersion now state.store.find? request
    rw [← Tables.serve_eq, ← same] at written
    dsimp only at written
    rw [written]
    exact Contents.set_of_kind_ne _ _ _ _ (by rw [kind]; decide)

theorem find?_of_get {state after : Scheduled Tables} {kind : Kind} {key : ObjectKey} {object : Object kind}
    (answered : Service.scheduled Tables.serve (.get kind key) now state = (.ok object, after)) :
    after.store.find? kind key = some object := by
  obtain ⟨error, failed, -⟩ | same := Service.scheduled_cases Tables.serve (.get kind key) now state
  · rw [answered] at failed
    cases failed
  · rw [answered] at same
    cases found : state.store.find? kind key with
    | none =>
      rw [Tables.serve_get_of_absent found] at same
      cases same
    | some stored =>
      rw [Tables.serve_get_of_found found] at same
      obtain ⟨read, stays⟩ := Prod.mk.inj same
      rw [stays, found, Except.ok.inj read]

theorem provided (custody : Custody (Scheduled Tables)) (now : Timestamp) :
    custody.SameClaims (custody.call (Service.scheduled Tables.serve) now Pairing.provideReference).2 ∧
      ((custody.call (Service.scheduled Tables.serve) now Pairing.provideReference).1 = .ok .unchanged →
        ((custody.call (Service.scheduled Tables.serve) now Pairing.provideReference).2.contents .reference
          custody.link).isSome = true) := by
  have ensures : Pairing.provideReference.Ensures (.exact (Service.scheduled Tables.serve) now)
      (fun outcome pairing state => custody.SameClaims ⟨pairing, state⟩ ∧ (outcome = .ok .unchanged →
        (state.store.find? .reference custody.link).isSome = true)) custody.pairing custody.store := by
    have look := claims_serve_reference (.get .reference custody.link) rfl now custody.store
    refine ensures_provideReference ?_ ?_ ?_
    · intro reference state looked
      rw [looked] at look
      exact ⟨⟨rfl, rfl, look⟩, fun _ => Option.isSome_of_eq_some (find?_of_get looked)⟩
    · intro error state looked _
      rw [looked] at look
      have creation := claims_serve_reference (.create custody.pairing.reference) rfl now state
      generalize Service.scheduled Tables.serve (.create custody.pairing.reference) now state = result at creation ⊢
      have stored key := (creation key).trans (look key)
      obtain ⟨_ | version, left⟩ := result <;> exact ⟨⟨rfl, rfl, stored⟩, nofun⟩
    · intro failure state looked _
      rw [looked] at look
      exact ⟨⟨rfl, rfl, look⟩, nofun⟩
  exact call_of_ensures ensures

/-! Calls one after the other, on a pair that was made when the claim had just been read. -/

abbrev reached (start : Custody (Scheduled Tables)) (calls : List (Duty × Timestamp)) : Custody (Scheduled Tables) :=
  start.after (Service.scheduled Tables.serve) Duty.operation calls

def answer (start : Custody (Scheduled Tables)) (calls : List (Duty × Timestamp)) (duty : Duty) (now : Timestamp) :
    Except Failure Change :=
  ((start.reached calls).call (Service.scheduled Tables.serve) now duty.operation).1

theorem reached_concat (start : Custody (Scheduled Tables)) (calls : List (Duty × Timestamp)) (duty : Duty)
    (now : Timestamp) : start.reached (calls ++ [(duty, now)]) =
      ((start.reached calls).call (Service.scheduled Tables.serve) now duty.operation).2 := by
  simp only [reached, Custody.after, List.foldl_append, List.foldl_cons, List.foldl_nil]

theorem same_reached (start : Custody (Scheduled Tables)) (calls : List (Duty × Timestamp)) :
    (start.reached calls).claim.key = start.claim.key ∧ (start.reached calls).link = start.link := by
  induction calls using List.reverseRecOn with
  | nil => exact ⟨rfl, rfl⟩
  | append_singleton calls call ih =>
    obtain ⟨duty, now⟩ := call
    rw [reached_concat]
    cases duty with
    | aim other =>
      obtain ⟨key, link⟩ := (came (start.reached calls) other now).same
      exact ⟨key.trans ih.1, link.trans ih.2⟩
    | reference =>
      obtain ⟨same, -⟩ := provided (start.reached calls) now
      exact ⟨(congrArg Object.key same.claim).trans ih.1, same.link.trans ih.2⟩

/-- It was to be brought about by a call that failed, the store lacked it then, and no call has written its half of the
claim since. -/
inductive Owes (start : Custody (Scheduled Tables)) (aim : Aim) : List (Duty × Timestamp) → Prop
  | failed {calls : List (Duty × Timestamp)} {now : Timestamp} {failure : Failure} :
    start.answer calls (.aim aim) now = .error failure →
    ¬ (start.reached calls).Keeps aim start.claim.key start.link → Owes start aim (calls ++ [(.aim aim, now)])
  | unwritten {calls : List (Duty × Timestamp)} {duty : Duty} {now : Timestamp} : Owes start aim calls →
    ¬ (start.answer calls duty now = .ok .modified ∧ duty.half? = some aim.half) →
    Owes start aim (calls ++ [(duty, now)])

theorem Owes.failure {calls : List (Duty × Timestamp)} (owes : start.Owes aim calls) :
    ∃ before now later failure, calls = before ++ (.aim aim, now) :: later ∧
      start.answer before (.aim aim) now = .error failure := by
  induction owes with
  | @failed calls now failure failed => exact ⟨calls, now, [], failure, rfl, failed⟩
  | unwritten _ _ ih =>
    obtain ⟨before, now, later, failure, rfl, failed⟩ := ih
    exact ⟨before, now, later ++ [_], failure, List.append_assoc .., failed⟩

theorem Owes.not_keeps {calls : List (Duty × Timestamp)} (owes : start.Owes aim calls) :
    ¬ (start.reached calls).Keeps aim start.claim.key start.link := by
  induction owes with
  | @failed calls now failure failed lacks =>
    intro keeps
    rw [reached_concat] at keeps
    apply lacks
    apply (came (start.reached calls) aim now).keeps (start.same_reached calls).1 _ keeps
    rintro ⟨wrote, -⟩
    cases failed.symm.trans wrote
  | @unwritten calls duty now owes skips ih =>
    intro keeps
    rw [reached_concat] at keeps
    apply ih
    cases duty with
    | aim other =>
      apply (came (start.reached calls) other now).keeps (start.same_reached calls).1 _ keeps
      rintro ⟨wrote, same⟩
      exact skips ⟨wrote, congrArg some same⟩
    | reference => exact (provided (start.reached calls) now).1.keeps keeps

-- The induction is on the last call: either it fell behind there, or it was behind before and the call did not write.
theorem owes_of_behind (fresh : ¬ start.Behind aim start.claim.key start.link) {calls : List (Duty × Timestamp)}
    (behind : (start.reached calls).Behind aim start.claim.key start.link) : start.Owes aim calls := by
  induction calls using List.reverseRecOn with
  | nil => exact absurd behind fresh
  | append_singleton calls call ih =>
    obtain ⟨duty, now⟩ := call
    rw [reached_concat] at behind
    cases duty with
    | aim other =>
      obtain ⟨own, linked⟩ := start.same_reached calls
      obtain ⟨skips, before | ⟨rfl, ⟨failure, failed⟩, lacks⟩⟩ :=
        (came (start.reached calls) other now).behind own linked behind
      · exact .unwritten (ih before) fun wrote => skips ⟨wrote.1, Option.some.inj wrote.2⟩
      · exact .failed failed lacks
    | reference =>
      exact .unwritten (ih ((provided (start.reached calls) now).1.behind behind)) fun wrote => nomatch wrote.2

/-- What holds of the snapshot is stored, unless the claim is gone or the change is owed. -/
theorem keeps_iff_not_owes (fresh : ¬ start.Behind aim start.claim.key start.link) {calls : List (Duty × Timestamp)}
    (holds : aim.HoldsOf start.link (start.reached calls).claim) :
    (start.reached calls).Keeps aim start.claim.key start.link ↔
      ((start.reached calls).contents .claim start.claim.key).isSome = true ∧ ¬ start.Owes aim calls := by
  constructor
  · intro keeps
    have ⟨stored, found, _⟩ := keeps
    exact ⟨Option.isSome_of_eq_some found, fun owes => owes.not_keeps keeps⟩
  · rintro ⟨present, settled⟩
    obtain ⟨stored, found⟩ := Option.isSome_iff_exists.mp present
    by_contra lacking
    have lacks : ¬ aim.HoldsOf start.link stored := fun there => lacking ⟨stored, found, there⟩
    exact settled (owes_of_behind fresh ⟨holds, stored, found, lacks⟩)

/-- What can be relied on when the next call says `unchanged`. -/
structure Reliance (start : Custody (Scheduled Tables)) (calls : List (Duty × Timestamp)) (now : Timestamp) : Prop where
  aims : ∀ aim, start.answer calls (.aim aim) now = .ok .unchanged →
    (∀ target, aim = .inPhase target → (start.reached calls).claim.status.phase = some target) →
    ((start.reached (calls ++ [(.aim aim, now)])).Keeps aim start.claim.key start.link ↔
      ((start.reached (calls ++ [(.aim aim, now)])).contents .claim start.claim.key).isSome = true ∧
        ¬ start.Owes aim calls)
  reference : start.answer calls .reference now = .ok .unchanged →
    ((start.reached (calls ++ [(.reference, now)])).contents .reference start.link).isSome = true

/-- A pair is made of a claim that was just read, and requests are made to fail by any plan. After any calls in any
order, what a call says is there already is stored, unless the claim is gone or the change is owed. -/
theorem unchanged_reliance (store : Tables) (plan : List (Option StoreError)) (claim : Claim)
    (found : store.find? .claim claim.key = some claim) (space : String) (calls : List (Duty × Timestamp))
    (now : Timestamp) : Reliance ⟨.of claim space, store, plan⟩ calls now := by
  generalize made : Custody.mk (Pairing.of claim space) (Scheduled.mk store plan) = start
  have fresh (aim : Aim) : ¬ start.Behind aim start.claim.key start.link := by
    subst made
    rintro ⟨holds, stored, found', lacks⟩
    cases found.symm.trans found'
    exact lacks holds
  constructor
  · intro aim told entered
    obtain ⟨idle, same⟩ := (came (start.reached calls) aim now).of_unchanged told
    have holds := Aim.holdsOf_of_unplanned idle entered
    rw [(start.same_reached calls).2] at holds
    rw [(start.reached_concat calls (.aim aim) now).trans same]
    exact keeps_iff_not_owes (fresh aim) holds
  · intro told
    rw [reached_concat, ← (start.same_reached calls).2]
    exact (provided (start.reached calls) now).2 told

/-- A pair made of a new claim in its store, where the next request is refused. -/
def hindered : Custody (Scheduled Tables) := ⟨.of newClaim "operator", newStore, [some (.injected .other "refused")]⟩

def partedClaim : Claim :=
  { newClaim with
    metadata :=
      { newClaim.metadata with
        finalizers := [Finalizers.claimMarker]
        deletionTime := some .epoch
        version := some "2" }
    status := { conditions := some [] } }

def partedStore : Tables :=
  (Tables.serve (.delete partedClaim) .epoch (Tables.serve (.create partedClaim) .epoch {}).2).2

def parted : Custody (Scheduled Tables) := ⟨.of partedClaim "operator", partedStore, []⟩

/-- The conditions could not be written: the same call again finds nothing to do, and the claim is stored as it was.
Once the marker is taken off a claim that is to go, nothing is stored, and its conditions count as initialised. -/
theorem unchanged_unstored :
    (newStore.find? .claim newClaim.key = some newClaim ∧
      hindered.answer [(.aim .opened, .epoch)] (.aim .opened) .epoch = .ok .unchanged ∧
      ¬ (hindered.reached [(.aim .opened, .epoch), (.aim .opened, .epoch)]).Keeps .opened newClaim.key
        hindered.link) ∧
    partedStore.find? .claim partedClaim.key = some partedClaim ∧
      parted.answer [(.aim .released, .epoch)] (.aim .opened) .epoch = .ok .unchanged ∧
      ¬ (parted.reached [(.aim .released, .epoch), (.aim .opened, .epoch)]).Keeps .opened partedClaim.key
        parted.link := by
  refine ⟨⟨by decide +kernel, by decide +kernel, ?_⟩, by decide +kernel, by decide +kernel, ?_⟩
  · have stays : (hindered.reached [(.aim .opened, .epoch), (.aim .opened, .epoch)]).contents .claim newClaim.key =
        some newClaim := by decide +kernel
    exact not_keeps_of_lacks stays nofun
  · have gone : (parted.reached [(.aim .released, .epoch), (.aim .opened, .epoch)]).contents .claim partedClaim.key =
        none := by decide +kernel
    rintro ⟨stored, found, opened⟩
    cases found.symm.trans gone

/-- A write of the phase takes the conditions along, and nothing is owed then. -/
theorem conditions_taken_along :
    (hindered.reached [(.aim .opened, .epoch), (.aim (.inPhase .pending), .epoch), (.aim .opened, .epoch)]).Keeps
      .opened newClaim.key hindered.link ∧
    ¬ hindered.Owes .opened [(.aim .opened, .epoch), (.aim (.inPhase .pending), .epoch)] := by
  have found : newStore.find? .claim newClaim.key = some newClaim := by decide +kernel
  have reliance : Reliance hindered [(.aim .opened, .epoch), (.aim (.inPhase .pending), .epoch)] .epoch :=
    unchanged_reliance newStore _ newClaim found "operator" _ .epoch
  have settled := reliance.aims .opened (by decide +kernel) nofun
  have stored : ((hindered.reached [(.aim .opened, .epoch), (.aim (.inPhase .pending), .epoch),
      (.aim .opened, .epoch)]).contents .claim newClaim.key).map (·.status.conditions) = some (some []) := by
    decide +kernel
  obtain ⟨claim, found, opened⟩ := Option.map_eq_some_iff.mp stored
  have keeps : Keeps .opened newClaim.key hindered.link _ := ⟨claim, found, Option.isSome_of_eq_some opened⟩
  exact ⟨keeps, (settled.mp keeps).2⟩

end Custody

end ClaimOperator

import ClaimOperator.Proofs.Reconcile.Stages

/-! What a pass over a live claim can do to a local store that nobody else writes to.

However many of its requests fail, the pass changes nothing but the claim, and it may
create the reference. The claim keeps its finalizers and gets the marker at most; its
link stays or becomes that of the reference. The reference is created only for a claim
that is stored with both.
-/

set_option autoImplicit false

namespace ClaimOperator

theorem Finalizers.insert_insert (finalizers : List String) (marker : String) :
    insert (insert finalizers marker) marker = insert finalizers marker := by
  have present : marker ∈ insert finalizers marker := (mem_insert finalizers marker marker).mpr (.inr rfl)
  rw [insert, if_pos present]

/-- A later state of a live claim: it may have been linked and held, and its status is anybody's. -/
structure Object.Descends (link : ObjectKey) (claim later : Claim) : Prop where
  key : later.key = claim.key
  deletionTime : later.metadata.deletionTime = claim.metadata.deletionTime
  finalizers : later.metadata.finalizers = claim.metadata.finalizers ∨
    later.metadata.finalizers = Finalizers.insert claim.metadata.finalizers Finalizers.claimMarker
  spec : later.spec = claim.spec ∨ later.spec = { claim.spec with referenceLink := link }

namespace Object.Descends

variable {link : ObjectKey} {claim middle later : Claim}

theorem refl (link : ObjectKey) (claim : Claim) : Descends link claim claim := ⟨rfl, rfl, .inl rfl, .inl rfl⟩

theorem trans (first : Descends link claim middle) (second : Descends link middle later) :
    Descends link claim later where
  key := second.key.trans first.key
  deletionTime := second.deletionTime.trans first.deletionTime
  finalizers := by
    rcases second.finalizers with same | inserted
    · rw [same]
      exact first.finalizers
    · rw [inserted]
      rcases first.finalizers with same | twice
      · exact .inr (by rw [same])
      · exact .inr (by rw [twice, Finalizers.insert_insert])
  spec := by
    rcases second.spec with same | linked
    · rw [same]
      exact first.spec
    · rcases first.spec with same | twice
      · exact .inr (by rw [linked, same])
      · exact .inr (by rw [linked, twice])

theorem withVersion (descends : Descends link claim later) (version : Option String) :
    Descends link claim (later.withVersion version) :=
  ⟨descends.key, descends.deletionTime, descends.finalizers, descends.spec⟩

theorem withStatus (descends : Descends link claim later) (status : ClaimStatus) :
    Descends link claim (later.withStatus status) :=
  ⟨descends.key, descends.deletionTime, descends.finalizers, descends.spec⟩

theorem opened (claim : Claim) (link : ObjectKey) : Descends link claim claim.opened :=
  ⟨rfl, rfl, .inl rfl, .inl rfl⟩

theorem inPhase (claim : Claim) (link : ObjectKey) (phase : ClaimPhase) : Descends link claim (claim.inPhase phase) :=
  ⟨rfl, rfl, .inl rfl, .inl rfl⟩

theorem linkedTo (claim : Claim) (link : ObjectKey) : Descends link claim (claim.linkedTo link) :=
  ⟨rfl, rfl, .inl rfl, .inr rfl⟩

theorem addMarker (claim : Claim) (link : ObjectKey) : Descends link claim claim.addMarker :=
  ⟨rfl, rfl, .inr rfl, .inl rfl⟩

theorem hasMarker (descends : Descends link claim later) (marked : claim.hasMarker = true) :
    later.hasMarker = true := by
  unfold Object.hasMarker at marked ⊢
  rcases descends.finalizers with same | inserted
  · rwa [same]
  · rw [inserted]
    exact Object.hasMarker_addMarker claim

theorem referenceLink (descends : Descends link claim later) :
    later.spec.referenceLink = claim.spec.referenceLink ∨ later.spec.referenceLink = link := by
  rcases descends.spec with same | linked
  · exact .inl (by rw [same])
  · exact .inr (by rw [linked])

theorem linked (descends : Descends link claim later) (linked : claim.spec.referenceLink = link) :
    later.spec.referenceLink = link :=
  descends.referenceLink.elim (fun same => same.trans linked) id

theorem isLeaving (descends : Descends link claim later) : later.isLeaving = claim.isLeaving := by
  simp only [Object.isLeaving, descends.deletionTime]

end Object.Descends

/-- The steps that passes over a claim have still to do, in their order. -/
def Object.missing (link : ObjectKey) (claim : Claim) : List Step :=
  (if claim.status.conditions.isSome then [] else [.conditions]) ++
    (if claim.spec.referenceLink = link then [] else [.link]) ++ if claim.hasMarker then [] else [.marker]

theorem Object.missing_eq_nil_iff {link : ObjectKey} {claim : Claim} : claim.missing link = [] ↔
    claim.status.conditions.isSome = true ∧ claim.spec.referenceLink = link ∧ claim.hasMarker = true := by
  simp only [missing, List.append_eq_nil_iff, ite_eq_left_iff, List.cons_ne_nil, imp_false, Decidable.not_not, and_assoc]

theorem Object.missing_opened {link : ObjectKey} {claim : Claim} (closed : claim.status.conditions = none) :
    claim.missing link = .conditions :: claim.opened.missing link := by
  have marker : claim.opened.hasMarker = claim.hasMarker := rfl
  simp only [missing, closed, marker]
  rfl

theorem Object.missing_linkedTo {link : ObjectKey} {claim : Claim}
    (opened : claim.status.conditions.isSome = true) (unlinked : claim.spec.referenceLink ≠ link) :
    claim.missing link = .link :: (claim.linkedTo link).missing link := by
  have conditions : (claim.linkedTo link).status.conditions.isSome = true := opened
  have linked : (claim.linkedTo link).spec.referenceLink = link := rfl
  have marker : (claim.linkedTo link).hasMarker = claim.hasMarker := rfl
  simp only [missing, opened, unlinked, conditions, linked, marker, ↓reduceIte, List.nil_append, List.cons_append]

theorem Object.missing_addMarker {link : ObjectKey} {claim : Claim}
    (opened : claim.status.conditions.isSome = true) (linked : claim.spec.referenceLink = link)
    (unmarked : claim.hasMarker = false) : claim.missing link = .marker :: claim.addMarker.missing link := by
  have done : claim.addMarker.missing link = [] :=
    missing_eq_nil_iff.mpr ⟨opened, linked, hasMarker_addMarker claim⟩
  rw [done]
  simp only [missing, opened, linked, unmarked, Bool.false_eq_true, ↓reduceIte, List.nil_append]

theorem Object.missing_withStatus {link : ObjectKey} {claim : Claim} {update : ConditionUpdate} {now : Timestamp}
    {status : ClaimStatus} (updated : claim.status.update? update now = some status)
    (complete : claim.missing link = []) : (claim.withStatus status).missing link = [] := by
  obtain ⟨_, linked, marked⟩ := missing_eq_nil_iff.mp complete
  obtain ⟨conditions, _, rfl⟩ := Option.map_eq_some_iff.mp updated
  exact missing_eq_nil_iff.mpr ⟨rfl, linked, marked⟩

namespace Pass

open Operation Pairing

/-- The entry of the reference is as before, or the reference was created for a claim that is held and linked. -/
def Provided (space : String) (before : Contents) (claim later : Claim) (entry : Option Reference) : Prop :=
  entry = before .reference (claim.key.referenceKey space) ∨
    (before .reference (claim.key.referenceKey space) = none ∧ later.hasMarker = true ∧
      later.spec.referenceLink = claim.key.referenceKey space ∧
      ∃ version, entry = some ((claim.draftReference space).withVersion (some version)))

def Live (space : String) (before : Contents) (claim : Claim) (after : Contents) : Prop :=
  ∃ (later : Claim) (entry : Option Reference),
    Object.Descends (claim.key.referenceKey space) claim later ∧ Provided space before claim later entry ∧
    after = (before.set .reference (claim.key.referenceKey space) entry).set .claim claim.key (some later)

/-- Where a pass is when nothing has failed: the snapshot is what the claim has become. -/
structure Underway (space : String) (before : Contents) (claim : Claim) (pairing : Pairing) (contents : Contents) :
    Prop where
  descends : Object.Descends (claim.key.referenceKey space) claim pairing.claim
  reference : ∃ version, pairing.reference = (claim.draftReference space).withVersion version
  shape : ∃ entry, Provided space before claim pairing.claim entry ∧
    contents = (before.set .reference (claim.key.referenceKey space) entry).set .claim claim.key (some pairing.claim)

variable {injected : StoreError → Prop} {space : String} {before contents : Contents} {claim : Claim} {pairing : Pairing}

theorem Provided.of_descends {later latest : Claim} {entry : Option Reference}
    (provided : Provided space before claim later entry)
    (descends : Object.Descends (claim.key.referenceKey space) later latest) :
    Provided space before claim latest entry := by
  rcases provided with same | ⟨absent, marked, linked, created⟩
  · exact .inl same
  · exact .inr ⟨absent, descends.hasMarker marked, descends.linked linked, created⟩

theorem Live.start (found : before .claim claim.key = some claim) : Live space before claim before := by
  refine ⟨claim, _, .refl _ _, .inl rfl, ?_⟩
  rw [Contents.set_current, ← found, Contents.set_current]

theorem Live.isLeaving {after : Contents} {later : Claim} (live : Live space before claim after)
    (stored : after .claim claim.key = some later) : later.isLeaving = claim.isLeaving := by
  obtain ⟨written, _, descends, _, rfl⟩ := live
  rw [Contents.set_self] at stored
  cases stored
  exact descends.isLeaving

theorem Live.reference {after : Contents} (live : Live space before claim after) :
    after .reference (claim.key.referenceKey space) = before .reference (claim.key.referenceKey space) ∨
      before .reference (claim.key.referenceKey space) = none ∧ ∃ version,
        after .reference (claim.key.referenceKey space) =
          some ((claim.draftReference space).withVersion (some version)) := by
  obtain ⟨_, entry, _, provided, rfl⟩ := live
  rw [Contents.set_claim_reference, Contents.set_self]
  rcases provided with same | ⟨absent, _, _, created⟩
  · exact .inl same
  · exact .inr ⟨absent, created⟩

theorem Live.claim_of_ne {after : Contents} (live : Live space before claim after) {key : ObjectKey}
    (elsewhere : key ≠ claim.key) : after .claim key = before .claim key := by
  obtain ⟨_, _, _, _, rfl⟩ := live
  rw [Contents.set_of_key_ne _ _ _ elsewhere, Contents.set_reference_claim]

theorem Underway.start (space : String) (found : before .claim claim.key = some claim) :
    Underway space before claim (.of claim space) before where
  descends := .refl _ _
  reference := ⟨none, rfl⟩
  shape := by
    refine ⟨_, .inl rfl, ?_⟩
    rw [Contents.set_current]
    exact ((congrArg _ found.symm).trans (Contents.set_current before .claim claim.key)).symm

namespace Underway

theorem live (underway : Underway space before claim pairing contents) : Live space before claim contents := by
  obtain ⟨entry, provided, shape⟩ := underway.shape
  exact ⟨pairing.claim, entry, underway.descends, provided, shape⟩

theorem current (underway : Underway space before claim pairing contents) : pairing.Current contents := by
  obtain ⟨entry, _, shape⟩ := underway.shape
  unfold Pairing.Current
  rw [shape, underway.descends.key, Contents.set_self]

theorem referenceKey (underway : Underway space before claim pairing contents) :
    pairing.referenceKey = claim.key.referenceKey space := by
  obtain ⟨version, reference⟩ := underway.reference
  rw [Pairing.referenceKey, reference]
  rfl

theorem write (underway : Underway space before claim pairing contents) {changed : Claim}
    (descends : Object.Descends (claim.key.referenceKey space) pairing.claim changed) :
    Underway space before claim (pairing.holding changed) (contents.set .claim pairing.claim.key (some changed)) where
  descends := underway.descends.trans descends
  reference := underway.reference
  shape := by
    obtain ⟨entry, provided, shape⟩ := underway.shape
    refine ⟨entry, provided.of_descends descends, ?_⟩
    rw [shape, underway.descends.key, Contents.set_set]
    rfl

/-- However the record of an error ends, it leaves nothing but the claim changed. -/
theorem onStoreError (underway : Underway space before claim pairing contents) {failed : Pairing}
    (key : failed.claim.key = pairing.claim.key)
    (version : failed.claim.metadata.version = pairing.claim.metadata.version) (step : Step) (error : StoreError)
    {post : Except Failure Change → Pairing → Contents → Prop}
    (ends : ∀ pairing' after, Live space before claim after → post (.error (.store error)) pairing' after) :
    (Pass.onStoreError step true error).Ensures (.alone injected (Live space before claim)) post failed contents := by
  have found : contents .claim failed.claim.key = some pairing.claim := by
    rw [key]
    exact underway.current
  refine ensures_onStoreError step error found version underway.live ?_ ?_
  · intro now status _ fresh
    have later := (underway.write (((Object.Descends.refl _ _).withStatus status).withVersion (some fresh))).live
    rw [← key] at later
    exact ⟨later, fun pairing' => ends pairing' _ later⟩
  · exact fun _ _ pairing' => ends pairing' contents underway.live

theorem saves (underway : Underway space before claim pairing contents) {changed : Claim}
    (descends : Object.Descends (claim.key.referenceKey space) pairing.claim changed)
    (version : changed.metadata.version = pairing.claim.metadata.version) (step : Step)
    {post : Except Failure Change → Pairing → Contents → Prop}
    (written : ∀ fresh : String, Underway space before claim (pairing.holding (changed.withVersion (some fresh)))
        (contents.set .claim pairing.claim.key (some (changed.withVersion (some fresh)))) →
      post (.ok .modified) (pairing.holding (changed.withVersion (some fresh)))
        (contents.set .claim pairing.claim.key (some (changed.withVersion (some fresh)))))
    (ends : ∀ error, injected error → ∀ pairing' after, Live space before claim after →
      post (.error (.store error)) pairing' after) :
    Saves injected (Live space before claim)
      (attempting (.alone injected (Live space before claim)) step true post) pairing contents changed where
  written fresh := by
    have later := underway.write (descends.withVersion (some fresh))
    exact ⟨later.live, written fresh later⟩
  -- The write did not reach the store: only the snapshot has changed, and the error is recorded from there.
  failed error injects := by
    refine ⟨underway.live, ?_⟩
    exact underway.onStoreError descends.key version step error (ends error injects)

theorem create (underway : Underway space before claim pairing contents) (marked : pairing.claim.hasMarker = true)
    (linked : pairing.claim.spec.referenceLink = claim.key.referenceKey space)
    (absent : contents .reference (claim.key.referenceKey space) = none) (fresh : String) :
    Underway space before claim
      { pairing with reference := pairing.reference.withVersion (some fresh), found := none }
      (contents.set .reference (claim.key.referenceKey space)
        (some ((WriteRules.newborn pairing.reference).withVersion (some fresh)))) where
  descends := underway.descends
  reference := by
    obtain ⟨version, reference⟩ := underway.reference
    exact ⟨some fresh, by rw [reference]; rfl⟩
  shape := by
    obtain ⟨entry, provided, rfl⟩ := underway.shape
    obtain ⟨version, reference⟩ := underway.reference
    -- There is no reference now, so there was none before: a pass does not take one out.
    rw [Contents.set_claim_reference, Contents.set_self] at absent
    subst absent
    have missing : before .reference (claim.key.referenceKey space) = none := by
      rcases provided with same | ⟨missing, _⟩
      · exact same.symm
      · exact missing
    refine ⟨some ((claim.draftReference space).withVersion (some fresh)),
      .inr ⟨missing, marked, linked, fresh, rfl⟩, ?_⟩
    rw [Contents.set_reference_set_claim, Contents.set_set, reference]
    rfl

end Underway

/-- What the stages come to, with these steps missing at their start: they end after the first one that is
missing, or go through to the reference. -/
structure Staged (injected : StoreError → Prop) (space : String) (before : Contents) (claim : Claim)
    (due : List Step) (outcome : Except Failure (Option Step)) (pairing : Pairing) (after : Contents) : Prop where
  live : Live space before claim after
  failed : ∀ failure, outcome = .error failure → ∃ error, injected error ∧ failure = .store error
  ended : ∀ stop, outcome = .ok stop → stop = due.head? ∧ Underway space before claim pairing after ∧
    pairing.claim.missing (claim.key.referenceKey space) = due.tail
  provided : outcome = .ok none → (after .reference (claim.key.referenceKey space)).isSome = true

section Stages

theorem Staged.error {due : List Step} {error : StoreError} {after : Contents} (injects : injected error)
    (live : Live space before claim after) :
    Staged injected space before claim due (.error (.store error)) pairing after :=
  ⟨live, (by rintro _ ⟨⟩; exact ⟨error, injects, rfl⟩), nofun, nofun⟩

variable (underway : Underway space before claim pairing contents)

include underway

theorem Staged.stopped {step : Step} {due rest : List Step} (same : due = step :: rest)
    (missing : pairing.claim.missing (claim.key.referenceKey space) = rest) :
    Staged injected space before claim due (.ok (some step)) pairing contents := by
  subst same
  exact ⟨underway.live, nofun, (by rintro _ ⟨⟩; exact ⟨rfl, underway, missing⟩), nofun⟩

theorem Staged.through {due : List Step} (same : due = [])
    (missing : pairing.claim.missing (claim.key.referenceKey space) = [])
    (stored : (contents .reference (claim.key.referenceKey space)).isSome = true) :
    Staged injected space before claim due (.ok none) pairing contents := by
  subst same
  exact ⟨underway.live, nofun, (by rintro _ ⟨⟩; exact ⟨rfl, underway, missing⟩), fun _ => stored⟩

theorem ensures_lastPhase {due : List Step} (same : due = [])
    (missing : pairing.claim.missing (claim.key.referenceKey space) = [])
    (stored : (contents .reference (claim.key.referenceKey space)).isSome = true) :
    (runStages (stages.drop 5)).Ensures (.alone injected (Live space before claim))
      (Staged injected space before claim due) pairing contents := by
  refine (ensures_runStages_cons .pendingProjectPhase (enterPhase .pendingProject) false _).mpr ?_
  refine ensures_enterPhase underway.current .pendingProject ?_ ?_
  · exact fun _ => Staged.through underway same missing stored
  · intro _
    refine underway.saves (.inPhase _ _ _) rfl _ ?_ ?_
    · intro fresh later
      exact Staged.through later same missing (by rwa [Contents.set_claim_reference])
    · exact fun error injects pairing' after live => Staged.error injects live

variable (genuine : ∀ error, injected error → error.category ≠ .notFound)

include genuine

theorem ensures_reference {due : List Step} (same : due = [])
    (missing : pairing.claim.missing (claim.key.referenceKey space) = []) :
    (runStages (stages.drop 4)).Ensures (.alone injected (Live space before claim))
      (Staged injected space before claim due) pairing contents := by
  refine (ensures_runStages_cons .reference provideReference false _).mpr ?_
  refine ensures_provideReference genuine underway.live ?_ ?_ ?_
  · intro reference found
    rw [underway.referenceKey] at found
    have look : Underway space before claim (pairing.finding (some reference)) contents :=
      ⟨underway.descends, underway.reference, underway.shape⟩
    exact ensures_lastPhase look same missing (by rw [found]; rfl)
  · intro absent fresh
    rw [underway.referenceKey] at absent ⊢
    obtain ⟨_, linked, marked⟩ := Object.missing_eq_nil_iff.mp missing
    have created := underway.create marked linked absent fresh
    exact ⟨created.live, ensures_lastPhase created same missing (by rw [Contents.set_self]; rfl)⟩
  · intro error injects found
    have look : Underway space before claim (pairing.finding found) contents :=
      ⟨underway.descends, underway.reference, underway.shape⟩
    refine look.onStoreError rfl rfl .reference error ?_
    exact fun pairing' after live => Staged.error injects live

theorem ensures_marker (opened : pairing.claim.status.conditions.isSome = true)
    (linked : pairing.claim.spec.referenceLink = claim.key.referenceKey space) :
    (runStages (stages.drop 3)).Ensures (.alone injected (Live space before claim))
      (Staged injected space before claim (pairing.claim.missing (claim.key.referenceKey space)))
      pairing contents := by
  refine (ensures_runStages_cons .marker holdClaim true _).mpr ?_
  refine ensures_holdClaim underway.current ?_ ?_
  · intro marked
    have missing := Object.missing_eq_nil_iff.mpr ⟨opened, linked, marked⟩
    exact ensures_reference underway genuine missing missing
  · intro unmarked
    refine underway.saves (.addMarker _ _) rfl _ ?_ ?_
    · intro fresh later
      exact Staged.stopped later (Object.missing_addMarker opened linked unmarked) rfl
    · exact fun error injects pairing' after live => Staged.error injects live

variable (live : claim.isLeaving = false)

include live

theorem ensures_link (opened : pairing.claim.status.conditions.isSome = true) :
    (runStages (stages.drop 2)).Ensures (.alone injected (Live space before claim))
      (Staged injected space before claim (pairing.claim.missing (claim.key.referenceKey space)))
      pairing contents := by
  refine (ensures_runStages_cons .link linkReference true _).mpr ?_
  refine ensures_linkReference underway.current (underway.descends.isLeaving.trans live) ?_ ?_
  · rw [underway.referenceKey]
    exact fun linked => ensures_marker underway genuine opened linked
  · rw [underway.referenceKey]
    intro unlinked
    refine underway.saves (.linkedTo _ _) rfl _ ?_ ?_
    · intro fresh later
      exact Staged.stopped later (Object.missing_linkedTo opened unlinked) rfl
    · exact fun error injects pairing' after live => Staged.error injects live

theorem ensures_firstPhase (opened : pairing.claim.status.conditions.isSome = true) :
    (runStages (stages.drop 1)).Ensures (.alone injected (Live space before claim))
      (Staged injected space before claim (pairing.claim.missing (claim.key.referenceKey space)))
      pairing contents := by
  refine (ensures_runStages_cons .pendingPhase (enterPhase .pending) false _).mpr ?_
  refine ensures_enterPhase underway.current .pending ?_ ?_
  · exact fun _ => ensures_link underway genuine live opened
  · intro _
    refine underway.saves (.inPhase _ _ _) rfl _ ?_ ?_
    · exact fun fresh later => ensures_link later genuine live opened
    · exact fun error injects pairing' after live => Staged.error injects live

theorem ensures_stages :
    (runStages stages).Ensures (.alone injected (Live space before claim))
      (Staged injected space before claim (pairing.claim.missing (claim.key.referenceKey space)))
      pairing contents := by
  refine (ensures_runStages_cons .conditions openConditions true _).mpr ?_
  refine ensures_openConditions underway.current ?_ ?_
  · exact fun opened => ensures_firstPhase underway genuine live opened
  · intro closed
    refine underway.saves (.opened _ _) rfl _ ?_ ?_
    · intro fresh later
      exact Staged.stopped later (Object.missing_opened closed) rfl
    · exact fun error injects pairing' after live => Staged.error injects live

end Stages

def resultOf : List Step → PassResult
  | [] => ⟨false, none⟩
  | step :: _ => ⟨true, some step⟩

theorem eq_nil_of_resultOf {due : List Step} (settled : resultOf due = ⟨false, none⟩) : due = [] := by
  cases due with
  | nil => rfl
  | cons step rest => cases settled

theorem resultOf_eq {stop : Option Step} {due : List Step} (first : stop = due.head?) :
    (match stop with
      | some step => ⟨true, some step⟩
      | none => ⟨false, none⟩ : PassResult) = resultOf due := by
  subst first
  cases due <;> rfl

/-- How a pass over a live claim ends: with an injected error, or with the first missing step done. When none
is missing, the reference is stored. -/
structure LiveEnd (injected : StoreError → Prop) (space : String) (before : Contents) (claim : Claim)
    (outcome : Except Failure PassResult) (after : Contents) : Prop where
  live : Live space before claim after
  failed : ∀ failure, outcome = .error failure → ∃ error, injected error ∧ failure = .store error
  advanced : ∀ result, outcome = .ok result →
    result = resultOf (claim.missing (claim.key.referenceKey space)) ∧
    ∃ later, after .claim claim.key = some later ∧
      later.missing (claim.key.referenceKey space) = (claim.missing (claim.key.referenceKey space)).tail
  provided : outcome = .ok ⟨false, none⟩ → (after .reference (claim.key.referenceKey space)).isSome = true

theorem ensures_runLive (space : String) (found : before .claim claim.key = some claim)
    (live : claim.isLeaving = false) (genuine : ∀ error, injected error → error.category ≠ .notFound) :
    runLive.Ensures (.alone injected (Live space before claim))
      (fun outcome _ after => LiveEnd injected space before claim outcome after) (.of claim space) before := by
  simp only [runLive, ensures_bind]
  refine (ensures_stages (Underway.start space found) genuine live).mono ?_
  intro outcome pairing contents staged
  rcases outcome with failure | (_ | step)
  case error =>
    refine ⟨staged.live, ?_, (by rintro _ ⟨⟩), (by rintro ⟨⟩)⟩
    rintro _ ⟨⟩
    exact staged.failed failure rfl
  case ok.some =>
    obtain ⟨first, underway, missing⟩ := staged.ended _ rfl
    refine ⟨underway.live, (by rintro _ ⟨⟩), ?_, (by rintro ⟨⟩)⟩
    rintro _ ⟨⟩
    refine ⟨?_, pairing.claim, underway.descends.key ▸ underway.current, missing⟩
    exact resultOf_eq first
  case ok.none =>
    obtain ⟨first, underway, missing⟩ := staged.ended _ rfl
    have complete : claim.missing (claim.key.referenceKey space) = [] := List.head?_eq_none_iff.mp first.symm
    have ends : ∀ {contents : Contents} {pairing : Pairing}, Underway space before claim pairing contents →
        pairing.claim.missing (claim.key.referenceKey space) = [] →
        (contents .reference (claim.key.referenceKey space)).isSome = true →
        LiveEnd injected space before claim (.ok ⟨false, none⟩) contents := by
      intro contents pairing underway missing stored
      refine ⟨underway.live, (by rintro _ ⟨⟩), ?_, fun _ => stored⟩
      rintro _ ⟨⟩
      rw [complete]
      exact ⟨rfl, pairing.claim, underway.descends.key ▸ underway.current, missing⟩
    have nothing : pairing.claim.missing (claim.key.referenceKey space) = [] :=
      missing.trans (congrArg List.tail complete)
    have stored := staged.provided rfl
    -- All that is left to do is to take back an error that an earlier pass recorded.
    simp only [ensures_bind, ensures_discard, ensures_attempt, ensures_pure]
    refine ensures_retireError underway.current (ends underway nothing stored) ?_
    intro now condition status _ _ updated
    constructor
    · intro fresh
      have later := underway.write (((Object.Descends.refl _ _).withStatus status).withVersion (some fresh))
      have settled := Object.missing_withStatus updated nothing
      exact ⟨later.live, ends later settled (by rwa [Contents.set_claim_reference])⟩
    · intro error injects
      refine ⟨underway.live, ?_⟩
      rw [attempting_store]
      refine ensures_onStoreError_unrecorded .recovery error ?_
      refine ⟨underway.live, ?_, (by rintro _ ⟨⟩), (by rintro ⟨⟩)⟩
      rintro _ ⟨⟩
      exact ⟨error, injects, rfl⟩

end Pass

end ClaimOperator

import ClaimOperator.Proofs.Workflow.NoOrphans
import Mathlib.Data.Set.Function

/-! When a claim acts on its own reference only.

The key of a reference is derived from the namespace and the name of its claim, joined
by a dash. Claims keep to their own references exactly if no two of them have the same
derived name; otherwise the second of the two adopts the reference of the first, and
deletes it with itself.
-/

set_option autoImplicit false

namespace ClaimOperator

section Runs

variable {σ : Type} [LocalStore σ]

def LocalStore.pass (space : String) (key : ObjectKey) (now : Timestamp) (store : σ) :
    Except Failure (Option PassResult) × σ :=
  work [] now (Workflow.reconcile space key) store

/-- The stores that come of creating these claims, requesting their deletion and running passes over them. -/
inductive Managed (space : String) (keys : Set ObjectKey) : σ → Prop where
  | empty : Managed space keys LocalStore.empty
  | created {key : ObjectKey} {store : σ} (now : Timestamp) (entity : LegalEntity) (region : String) : key ∈ keys →
    Managed space keys store → Managed space keys (LocalStore.work [] now (Workflow.create key entity region) store).2
  | doomed {key : ObjectKey} {store : σ} (now : Timestamp) : key ∈ keys →
    Managed space keys store → Managed space keys (LocalStore.work [] now (Workflow.requestDeletion key) store).2
  | passed {key : ObjectKey} {store : σ} (now : Timestamp) : key ∈ keys →
    Managed space keys store → Managed space keys (LocalStore.pass space key now store).2

end Runs

/-- No pass touches a reference that links to another claim, at any point. -/
def LeavesOthers (σ : Type) [LocalStore σ] (space : String) (keys : Set ObjectKey) : Prop :=
  ∀ (store : σ) (key : ObjectKey) (now : Timestamp), Managed space keys store → key ∈ keys →
    ∀ place reference, LocalStore.contents store .reference place = some reference →
      reference.spec.claimLink ≠ key →
      LocalStore.contents (LocalStore.pass space key now store).2 .reference place = some reference ∧
      ∀ effects, LocalStore.contents (LocalStore.during [] now (Workflow.reconcile space key) effects store)
        .reference place = some reference

/-- After a pass that asks for no other and names no step, the claim's link leads to a reference of its own. -/
def SettlesOwn (σ : Type) [LocalStore σ] (space : String) (keys : Set ObjectKey) : Prop :=
  ∀ (store : σ) (key : ObjectKey) (now : Timestamp), Managed space keys store → key ∈ keys →
    (LocalStore.pass space key now store).1 = .ok (some ⟨false, none⟩) →
    let after := LocalStore.contents (LocalStore.pass space key now store).2
    ∃ claim reference, after .claim key = some claim ∧
      after .reference claim.spec.referenceLink = some reference ∧ reference.spec.claimLink = key

def Contents.Within (keys : Set ObjectKey) (contents : Contents) : Prop :=
  ∀ key claim, contents .claim key = some claim → key ∈ keys

namespace Contents

variable {space : String} {keys : Set ObjectKey} {before after : Contents} {key : ObjectKey}

theorem Within.set_claim (within : Within keys before) (member : key ∈ keys) (entry : Option Claim) :
    Within keys (before.set .claim key entry) := by
  intro other claim found
  by_cases here : other = key
  · exact here ▸ member
  · rw [set_of_key_ne _ _ _ here] at found
    exact within other claim found

theorem Within.set_reference (within : Within keys before) (entry : Option Reference) :
    Within keys (before.set .reference key entry) := by
  intro other claim found
  rw [set_reference_claim] at found
  exact within other claim found

theorem Within.creates (within : Within keys before) (member : key ∈ keys) (creates : Creates key before after) :
    Within keys after := by
  cases creates with
  | idle => exact within
  | created _ _ => exact within.set_claim member _

theorem Within.deletes (within : Within keys before) (member : key ∈ keys) (deletes : Deletes .claim key before after) :
    Within keys after := by
  cases deletes with
  | idle => exact within
  | marked _ => exact within.set_claim member _

theorem Within.leads (within : Within keys before) (keyed : before.Keyed) (member : key ∈ keys)
    (leads : Pass.Leads space key before after) : Within keys after := by
  cases leads with
  | idle => exact within
  | live found _ live =>
    obtain rfl := keyed .claim key _ found
    obtain ⟨later, entry, _, _, rfl⟩ := live
    exact (within.set_reference entry).set_claim member _
  | leaving found _ leaving =>
    obtain rfl := keyed .claim key _ found
    cases leaving with
    | unchanged => exact within
    | discarded _ _ => exact within.set_reference _
    | released _ _ => exact within.set_claim member _
    | removed _ _ _ => exact within.set_claim member _

/-- A pass touches no reference but the one under the derived key. -/
theorem leads_reference (keyed : before.Keyed) (leads : Pass.Leads space key before after) {place : ObjectKey}
    (elsewhere : place ≠ key.referenceKey space) : after .reference place = before .reference place := by
  cases leads with
  | idle => rfl
  | live found _ live =>
    obtain rfl := keyed .claim key _ found
    obtain ⟨later, entry, _, _, rfl⟩ := live
    rw [set_claim_reference, set_of_key_ne _ _ _ elsewhere]
  | leaving found _ leaving =>
    obtain rfl := keyed .claim key _ found
    cases leaving with
    | unchanged => rfl
    | discarded _ _ => exact set_of_key_ne _ _ _ elsewhere
    | released _ _ => exact set_claim_reference _ _ _ _
    | removed _ _ _ => exact set_claim_reference _ _ _ _

end Contents

section Faultless

variable {σ : Type} [LocalStore σ] {space : String} {keys : Set ObjectKey} {store : σ} {key : ObjectKey}

theorem Managed.reachable (managed : Managed space keys store) : Reachable space store := by
  induction managed with
  | empty => exact .empty
  | created now entity region _ _ ih => exact .worked now (.create _ entity region) ih
  | doomed now _ _ ih => exact .worked now (.requestDeletion _) ih
  | passed now _ _ ih => exact .worked now (.reconcile _ [] nofun) ih

theorem faultless : Action.Injects (fun _ => False) [] := fun _ planned => nomatch planned

namespace LocalStore

theorem contents_create (quiet : Quiet store) (key : ObjectKey) (now : Timestamp) (entity : LegalEntity)
    (region : String) :
    let after := contents (work [] now (Workflow.create key entity region) store).2
    Creates key (contents store) after ∧ (contents store .claim key = none →
      ∃ claim, after .claim key = some claim ∧ claim.isLeaving = false) := by
  have ensures : (Workflow.create key entity region).Ensures (.alone (fun _ => False) _) _ (contents store) :=
    Workflow.ensures_create key entity region
  obtain ⟨_, ⟨creates, _, succeeds⟩, _⟩ := work_kept ensures quiet faultless now fun _ _ ended => ended.2.1
  exact ⟨creates, fun absent => succeeds absent fun _ => id⟩

theorem contents_requestDeletion (quiet : Quiet store) (key : ObjectKey) (now : Timestamp) :
    let after := contents (work [] now (Workflow.requestDeletion key) store).2
    Deletes .claim key (contents store) after ∧
      ∀ claim, contents store .claim key = some claim → claim.hasMarker = true →
        ∃ later, after .claim key = some later ∧ later.isLeaving = true := by
  have ensures : (Workflow.requestDeletion key).Ensures (.alone (fun _ => False) _) _ (contents store) :=
    Workflow.ensures_requestDeletion (keyed quiet) key
  obtain ⟨_, ⟨deletes, _, marked⟩, _⟩ := work_kept ensures quiet faultless now fun _ _ ended => ended.2.1
  exact ⟨deletes, marked fun _ => id⟩

theorem contents_pass (quiet : Quiet store) (space : String) (key : ObjectKey) (now : Timestamp) :
    ∃ result, (pass space key now store).1 = .ok result ∧
      Pass.Ends (fun _ => False) space key (contents store) (.ok result) (contents (pass space key now store).2) := by
  have ensures : (Workflow.reconcile space key).Ensures (.alone (fun _ => False) _) _ (contents store) :=
    Workflow.ensures_reconcile space key (keyed quiet) nofun
  obtain ⟨⟨outcome, commits⟩, ⟨ended, _⟩, same⟩ := work_kept ensures quiet faultless now (by
    rintro ⟨outcome, commits⟩ left ⟨ended, kept⟩ discarded
    match outcome with
    | .error failure =>
      obtain ⟨_, impossible, _⟩ := ended.failed failure rfl
      cases impossible
    | .ok none => exact ended.idle
    | .ok (some result) => cases (kept result rfl).symm.trans discarded)
  cases outcome with
  | error failure =>
    obtain ⟨_, impossible, _⟩ := ended.failed failure rfl
    cases impossible
  | ok result => exact ⟨result, same, ended⟩

end LocalStore

theorem Managed.within (managed : Managed space keys store) : (LocalStore.contents store).Within keys := by
  induction managed with
  | empty =>
    rw [LocalStore.contents_empty]
    exact fun _ _ found => nomatch found
  | created now entity region member managed ih =>
    exact ih.creates member (LocalStore.contents_create managed.reachable.paired.1 _ now entity region).1
  | doomed now member managed ih =>
    exact ih.deletes member (LocalStore.contents_requestDeletion managed.reachable.paired.1 _ now).1
  | passed now member managed ih =>
    have quiet := managed.reachable.paired.1
    obtain ⟨_, _, ended⟩ := LocalStore.contents_pass quiet space _ now
    exact ih.leads (LocalStore.keyed quiet) member ended.leads

/-- If derived names are distinct, the reference under a claim's derived key links to that claim. -/
theorem Managed.claimLink_eq (managed : Managed space keys store)
    (distinct : Set.InjOn ObjectKey.referenceName keys) (member : key ∈ keys) {reference : Reference}
    (found : LocalStore.contents store .reference (key.referenceKey space) = some reference) :
    reference.spec.claimLink = key := by
  obtain ⟨_, paired⟩ := managed.reachable.paired
  obtain ⟨claim, stored, _⟩ := paired.noOrphans _ reference found
  have derived := paired.derived _ reference found
  exact distinct (managed.within _ claim stored) member (congrArg ObjectKey.name derived).symm

theorem leavesOthers_of_injOn (distinct : Set.InjOn ObjectKey.referenceName keys) : LeavesOthers σ space keys := by
  intro store key now managed member place reference found other
  have quiet := managed.reachable.paired.1
  have keyed := LocalStore.keyed quiet
  have elsewhere : place ≠ key.referenceKey space := by
    rintro rfl
    exact other (managed.claimLink_eq distinct member found)
  constructor
  · obtain ⟨_, _, ended⟩ := LocalStore.contents_pass quiet space key now
    rw [Contents.leads_reference keyed ended.leads elsewhere, found]
  · intro effects
    have ensures : (Workflow.reconcile space key).Ensures (.alone (fun _ => False) _) _ (LocalStore.contents store) :=
      Workflow.ensures_reconcile space key keyed nofun
    have leads := LocalStore.keeps_during ensures .idle quiet faultless now effects
    rw [Contents.leads_reference keyed leads elsewhere, found]

theorem settlesOwn_of_injOn (distinct : Set.InjOn ObjectKey.referenceName keys) : SettlesOwn σ space keys := by
  intro store key now managed member settled
  have passed := Managed.passed now member managed
  obtain ⟨result, same, ended⟩ := LocalStore.contents_pass managed.reachable.paired.1 space key now
  obtain rfl : result = some ⟨false, none⟩ := Except.ok.inj (same.symm.trans settled)
  obtain ⟨⟨claim, found, _, linked⟩, stored⟩ := ended.settled rfl
  obtain ⟨reference, stored⟩ := Option.isSome_iff_exists.mp stored
  exact ⟨claim, reference, found, linked ▸ stored, passed.claimLink_eq distinct member stored⟩

theorem LocalStore.contents_pass_live (quiet : Quiet store) (space : String) (now : Timestamp) {claim : Claim}
    (found : contents store .claim claim.key = some claim) (live : claim.isLeaving = false) :
    (pass space claim.key now store).1 =
        .ok (some (Pass.resultOf (claim.missing (claim.key.referenceKey space)))) ∧
      Pass.Live space (contents store) claim (contents (pass space claim.key now store).2) ∧
      ∃ later, contents (pass space claim.key now store).2 .claim claim.key = some later ∧
        later.isLeaving = false ∧
        later.missing (claim.key.referenceKey space) = (claim.missing (claim.key.referenceKey space)).tail := by
  obtain ⟨result, same, ended⟩ := contents_pass quiet space claim.key now
  obtain ⟨rfl, later, stored, stays, remaining⟩ := ended.advanced claim found live result rfl
  exact ⟨same, ended.leads.live_of_found found live, later, stored, stays, remaining⟩

theorem Managed.settles (now : Timestamp) (member : key ∈ keys) {keeps : Contents → Prop}
    (preserved : ∀ {before claim after}, claim.key = key → Pass.Live space before claim after →
      keeps before → keeps after) (due : List Step) :
    ∀ {store : σ} {claim : Claim}, Managed space keys store → LocalStore.contents store .claim key = some claim →
      claim.isLeaving = false → claim.missing (key.referenceKey space) = due → keeps (LocalStore.contents store) →
      ∃ last : σ, Managed space keys last ∧ (LocalStore.pass space key now last).1 = .ok (some ⟨false, none⟩) ∧
        keeps (LocalStore.contents (LocalStore.pass space key now last).2) ∧
        ∃ later, LocalStore.contents (LocalStore.pass space key now last).2 .claim key = some later ∧
          later.isLeaving = false ∧ later.hasMarker = true := by
  -- Every pass does the first of the steps that are due, so the induction is on them.
  induction due with
  | nil =>
    intro store claim managed found live missing kept
    have quiet := managed.reachable.paired.1
    obtain rfl := LocalStore.keyed quiet .claim key claim found
    obtain ⟨result, passed, later, stored, stays, remaining⟩ :=
      LocalStore.contents_pass_live quiet space now found live
    rw [missing] at result remaining
    obtain ⟨_, _, marked⟩ := Object.missing_eq_nil_iff.mp remaining
    exact ⟨store, managed, result, preserved rfl passed kept, later, stored, stays, marked⟩
  | cons step rest ih =>
    intro store claim managed found live missing kept
    have quiet := managed.reachable.paired.1
    obtain rfl := LocalStore.keyed quiet .claim key claim found
    obtain ⟨_, passed, later, stored, stays, remaining⟩ := LocalStore.contents_pass_live quiet space now found live
    rw [missing] at remaining
    exact ih (.passed now member managed) stored stays remaining (preserved rfl passed kept)

theorem Managed.createTwo (σ : Type) [LocalStore σ] (space : String) {first second : ObjectKey} (member : first ∈ keys)
    (member' : second ∈ keys) (different : first ≠ second) :
    ∃ store : σ, Managed space keys store ∧ (∀ place, LocalStore.contents store .reference place = none) ∧
      (∃ claim, LocalStore.contents store .claim first = some claim ∧ claim.isLeaving = false) ∧
      ∃ claim, LocalStore.contents store .claim second = some claim ∧ claim.isLeaving = false := by
  have fresh : Managed space keys (LocalStore.empty : σ) := .empty
  have absent : ∀ kind key, LocalStore.contents (LocalStore.empty : σ) kind key = none := by
    rw [LocalStore.contents_empty]
    exact fun _ _ => rfl
  have one := Managed.created .epoch default "" member fresh
  obtain ⟨creates, found⟩ := LocalStore.contents_create fresh.reachable.paired.1 first .epoch default ""
  obtain ⟨claim, found, live⟩ := found (absent .claim first)
  obtain ⟨creates', found'⟩ := LocalStore.contents_create one.reachable.paired.1 second .epoch default ""
  have unset := (creates.claim_of_ne different.symm).trans (absent .claim second)
  refine ⟨_, .created .epoch default "" member' one, ?_, ⟨claim, ?_, live⟩, found' unset⟩
  · exact fun place => (creates'.reference place).trans ((creates.reference place).trans (absent .reference place))
  · rw [creates'.claim_of_ne different, found]

/-- Of two claims with one derived name, the second comes to rest with the reference of the first. -/
theorem Managed.adopts (σ : Type) [LocalStore σ] (space : String) {first second : ObjectKey} (member : first ∈ keys)
    (member' : second ∈ keys) (different : first ≠ second) (same : first.referenceName = second.referenceName) :
    ∃ last : σ, Managed space keys last ∧
      (LocalStore.pass space second .epoch last).1 = .ok (some ⟨false, none⟩) ∧
      (∃ reference, LocalStore.contents (LocalStore.pass space second .epoch last).2 .reference
          (second.referenceKey space) = some reference ∧
        reference.spec.claimLink = first ∧ reference.isLeaving = false) ∧
      ∃ claim, LocalStore.contents (LocalStore.pass space second .epoch last).2 .claim second = some claim ∧
        claim.hasMarker = true := by
  have shared : first.referenceKey space = second.referenceKey space := congrArg (ObjectKey.mk space) same
  obtain ⟨created, managed, absent, ⟨claim, found, live⟩, other⟩ := Managed.createTwo σ space member member' different
  -- While the first claim is seen to, a reference that comes up is its own, and the second claim waits.
  let waits : Contents → Prop := fun contents =>
    (∀ reference, contents .reference (first.referenceKey space) = some reference →
      reference.spec.claimLink = first ∧ reference.isLeaving = false) ∧
    ∃ claim, contents .claim second = some claim ∧ claim.isLeaving = false
  have waiting : ∀ {before claim after}, claim.key = first → Pass.Live space before claim after →
      waits before → waits after := by
    rintro before claim after rfl passed ⟨own, claim', found', live'⟩
    refine ⟨fun reference found => ?_, claim', ?_, live'⟩
    · rcases passed.reference with unchanged | ⟨_, version, created⟩
      · exact own reference (unchanged.symm.trans found)
      · cases created.symm.trans found
        exact ⟨rfl, rfl⟩
    · rw [passed.claim_of_ne different.symm, found']
  have start : waits (LocalStore.contents created) :=
    ⟨fun reference found => (nomatch (absent _).symm.trans found), other⟩
  obtain ⟨last, managed, settled, ⟨own, claim', found', live'⟩, _⟩ :=
    managed.settles .epoch member waiting _ found live rfl start
  have between := Managed.passed .epoch member managed
  obtain ⟨result, same, ended⟩ := LocalStore.contents_pass managed.reachable.paired.1 space first .epoch
  obtain rfl : result = some ⟨false, none⟩ := Except.ok.inj (same.symm.trans settled)
  obtain ⟨reference, stored⟩ := Option.isSome_iff_exists.mp (ended.settled rfl).2
  obtain ⟨link, present⟩ := own reference stored
  -- While the second is seen to, it finds a reference under its derived key and leaves it as it is.
  let stays : Contents → Prop := fun contents => ∃ reference,
    contents .reference (second.referenceKey space) = some reference ∧
      reference.spec.claimLink = first ∧ reference.isLeaving = false
  have staying : ∀ {before claim after}, claim.key = second → Pass.Live space before claim after →
      stays before → stays after := by
    rintro before claim after rfl passed ⟨reference, found, own⟩
    rcases passed.reference with unchanged | ⟨missing, _⟩
    · exact ⟨reference, unchanged.trans found, own⟩
    · cases missing.symm.trans found
  obtain ⟨last', managed', settled', adopted, claim, found, _, marked⟩ :=
    between.settles .epoch member' staying _ found' live' rfl ⟨reference, shared ▸ stored, link, present⟩
  exact ⟨last', managed', settled', adopted, claim, found, marked⟩

theorem injOn_of_settlesOwn (own : SettlesOwn σ space keys) : Set.InjOn ObjectKey.referenceName keys := by
  intro first member second member' same
  by_contra different
  obtain ⟨last, managed, settled, ⟨reference, stored, link, _⟩, _⟩ :=
    Managed.adopts σ space member member' different same
  obtain ⟨claim, reference', _, stored', link'⟩ := own last second .epoch managed member' settled
  have derived := (Managed.passed .epoch member' managed).reachable.paired.2.derived _ reference' stored'
  rw [link'] at derived
  rw [derived, stored] at stored'
  cases stored'
  exact different (link.symm.trans link')

theorem injOn_of_leavesOthers (others : LeavesOthers σ space keys) : Set.InjOn ObjectKey.referenceName keys := by
  intro first member second member' same
  by_contra different
  obtain ⟨last, managed, _, ⟨reference, stored, link, present⟩, claim, found, marked⟩ :=
    Managed.adopts σ space member member' different same
  have settled := Managed.passed .epoch member' managed
  -- Now the deletion of the second is requested, and the next pass deletes what it has adopted.
  obtain ⟨deletes, dooms⟩ := LocalStore.contents_requestDeletion settled.reachable.paired.1 second .epoch
  obtain ⟨doomed, found, leaving⟩ := dooms claim found marked
  have managed := Managed.doomed .epoch member' settled
  have stored := (deletes.reference _).trans stored
  obtain ⟨kept, _⟩ := others _ second .epoch managed member' _ reference stored (link ▸ different)
  obtain ⟨result, _, ended⟩ := LocalStore.contents_pass managed.reachable.paired.1 space second .epoch
  obtain ⟨_, discards⟩ := ended.discarded doomed found leaving result rfl
  obtain ⟨now, fresh, after⟩ := discards reference stored present
  rw [after, Contents.set_self] at kept
  obtain ⟨mark, written, rfl⟩ := Option.map_eq_some_iff.mp kept
  have marked := WriteRules.isLeaving_of_mark? written
  cases present.symm.trans marked

end Faultless

/-- Claims act on their own references only, exactly if no two of them have the same derived name: in memory and in
a table of rows, for what passes touch and for what they come to rest with. -/
theorem own_iff_injOn (space : String) (keys : Set ObjectKey) :
    ((LeavesOthers Tables space keys ↔ Set.InjOn ObjectKey.referenceName keys) ∧
      (SettlesOwn Tables space keys ↔ Set.InjOn ObjectKey.referenceName keys)) ∧
    (LeavesOthers Rows.Connection space keys ↔ Set.InjOn ObjectKey.referenceName keys) ∧
      (SettlesOwn Rows.Connection space keys ↔ Set.InjOn ObjectKey.referenceName keys) :=
  ⟨⟨⟨injOn_of_leavesOthers, leavesOthers_of_injOn⟩, injOn_of_settlesOwn, settlesOwn_of_injOn⟩,
    ⟨injOn_of_leavesOthers, leavesOthers_of_injOn⟩, injOn_of_settlesOwn, settlesOwn_of_injOn⟩

def crossed : Tables :=
  let create := fun (key : ObjectKey) (store : Tables) =>
    (LocalStore.work [] .epoch (Workflow.create key default "us-east1") store).2
  let pass := fun (key : ObjectKey) (store : Tables) => (LocalStore.pass defaultReferenceSpace key .epoch store).2
  let settle := fun (key : ObjectKey) (store : Tables) => pass key (pass key (pass key (pass key store)))
  let created := create ⟨"a", "b-c"⟩ (create ⟨"a-b", "c"⟩ LocalStore.empty)
  (LocalStore.work [] .epoch (Workflow.requestDeletion ⟨"a", "b-c"⟩)
    (settle ⟨"a", "b-c"⟩ (settle ⟨"a-b", "c"⟩ created))).2

theorem managed_crossed : Managed defaultReferenceSpace {⟨"a-b", "c"⟩, ⟨"a", "b-c"⟩} crossed := by
  have pass : ∀ (key : ObjectKey) (store : Tables), key ∈ ({⟨"a-b", "c"⟩, ⟨"a", "b-c"⟩} : Set ObjectKey) →
      Managed defaultReferenceSpace {⟨"a-b", "c"⟩, ⟨"a", "b-c"⟩} store →
      Managed defaultReferenceSpace {⟨"a-b", "c"⟩, ⟨"a", "b-c"⟩}
        (LocalStore.pass defaultReferenceSpace key .epoch store).2 :=
    fun _ _ member managed => .passed .epoch member managed
  have first : (⟨"a-b", "c"⟩ : ObjectKey) ∈ ({⟨"a-b", "c"⟩, ⟨"a", "b-c"⟩} : Set ObjectKey) := .inl rfl
  have second : (⟨"a", "b-c"⟩ : ObjectKey) ∈ ({⟨"a-b", "c"⟩, ⟨"a", "b-c"⟩} : Set ObjectKey) := .inr rfl
  refine .doomed .epoch second ?_
  refine pass _ _ second (pass _ _ second (pass _ _ second (pass _ _ second ?_)))
  refine pass _ _ first (pass _ _ first (pass _ _ first (pass _ _ first ?_)))
  exact .created .epoch default "us-east1" second (.created .epoch default "us-east1" first .empty)

/-- The pass over the second claim deletes the reference of the first. -/
theorem crossed_discards :
    (crossed.find? .reference ⟨defaultReferenceSpace, "a-b-c"⟩).map (·.spec.claimLink) = some ⟨"a-b", "c"⟩ ∧
      (LocalStore.pass defaultReferenceSpace ⟨"a", "b-c"⟩ .epoch crossed).2.find? .reference
        ⟨defaultReferenceSpace, "a-b-c"⟩ = none ∧
      ¬LeavesOthers Tables defaultReferenceSpace {⟨"a-b", "c"⟩, ⟨"a", "b-c"⟩} := by
  have stored : (crossed.find? .reference ⟨defaultReferenceSpace, "a-b-c"⟩).map (·.spec.claimLink) =
      some ⟨"a-b", "c"⟩ := by decide +kernel
  have discarded : (LocalStore.pass defaultReferenceSpace ⟨"a", "b-c"⟩ .epoch crossed).2.find? .reference
      ⟨defaultReferenceSpace, "a-b-c"⟩ = none := by decide +kernel
  refine ⟨stored, discarded, fun others => ?_⟩
  obtain ⟨reference, found, link⟩ := Option.map_eq_some_iff.mp stored
  have foreign : reference.spec.claimLink ≠ ⟨"a", "b-c"⟩ := by
    rw [link]
    decide
  obtain ⟨kept, _⟩ := others crossed ⟨"a", "b-c"⟩ .epoch managed_crossed (.inr rfl) _ reference found foreign
  cases discarded.symm.trans kept

end ClaimOperator

import ClaimOperator.Proofs.Reconcile.Operations
import ClaimOperator.Workflow

/-! What the units of work that are not passes can do to a local store.

A claim is created, or its deletion is requested; others delete references or change
their finalizers. Each of these touches one object at most.
-/

set_option autoImplicit false

namespace ClaimOperator

namespace External

def deleteReference (reference : Reference) : Action (Verdict Unit) := do
  let outcome ← Action.ask (.delete reference)
  return ⟨outcome, true⟩

def edited (reference : Reference) (finalizers : List String) (version : Option String) : Reference :=
  { reference with metadata := { reference.metadata with finalizers := finalizers, version := version } }

/-- Somebody reads a reference and gives it other finalizers, under the version that was read or any other. -/
def editFinalizers (key : ObjectKey) (finalizers : List String) (version : Option String) :
    Action (Verdict (Option String)) := do
  match ← Action.ask (.get .reference key) with
  | .error failure => return ⟨.error failure, false⟩
  | .ok reference =>
    let outcome ← Action.ask (.update (edited reference finalizers version))
    return ⟨outcome, true⟩

end External

inductive Creates (key : ObjectKey) (before : Contents) : Contents → Prop where
  | idle : Creates key before before
  | created {claim : Claim} : before .claim key = none → claim.isLeaving = false →
    Creates key before (before.set .claim key (some claim))

theorem Creates.claim_of_ne {key other : ObjectKey} {before after : Contents} (creates : Creates key before after)
    (elsewhere : other ≠ key) : after .claim other = before .claim other := by
  cases creates with
  | idle => rfl
  | created _ _ => exact Contents.set_of_key_ne _ _ _ elsewhere

theorem Creates.reference {key : ObjectKey} {before after : Contents} (creates : Creates key before after)
    (place : ObjectKey) : after .reference place = before .reference place := by
  cases creates with
  | idle => rfl
  | created _ _ => exact Contents.set_claim_reference _ _ _ _

inductive Deletes (kind : Kind) (key : ObjectKey) (before : Contents) : Contents → Prop where
  | idle : Deletes kind key before before
  | marked {stored : Object kind} {now : Timestamp} {fresh : String} : before kind key = some stored →
    Deletes kind key before (before.set kind key ((WriteRules.mark? stored now).map (·.withVersion (some fresh))))

theorem Deletes.reference {key : ObjectKey} {before after : Contents} (deletes : Deletes .claim key before after)
    (place : ObjectKey) : after .reference place = before .reference place := by
  cases deletes with
  | idle => rfl
  | marked _ => exact Contents.set_claim_reference _ _ _ _

inductive Edits (key : ObjectKey) (before : Contents) : Contents → Prop where
  | idle : Edits key before before
  | written {stored edited : Reference} : before .reference key = some stored → edited.spec = stored.spec →
    Edits key before (before.set .reference key (some edited))
  | removed : Edits key before (before.set .reference key none)

variable {injected : StoreError → Prop} {before : Contents}

theorem Workflow.ensures_create (key : ObjectKey) (entity : LegalEntity) (region : String) :
    (create key entity region).Ensures (.alone injected (Creates key before))
      (fun verdict after => Creates key before after ∧ (verdict.commits = false → after = before) ∧
        (before .claim key = none → (∀ error, ¬injected error) →
          ∃ claim, after .claim key = some claim ∧ claim.isLeaving = false)) before := by
  unfold create
  rw [Action.ensures_bind, Action.ensures_ask_alone]
  constructor
  · intro fresh now
    cases found : before .claim key with
    | some stored =>
      rw [Contents.serve_create_of_found found]
      exact ⟨.idle, .idle, fun _ => rfl, nofun⟩
    | none =>
      rw [Contents.serve_create_of_absent found]
      have created : Creates key before (before.set .claim key
          (some ((WriteRules.newborn (newClaim key entity region)).withVersion (some fresh)))) := .created found rfl
      exact ⟨created, created, nofun, fun _ _ => ⟨_, Contents.set_self _ _ _ _, rfl⟩⟩
  · exact fun error injects => ⟨.idle, .idle, fun _ => rfl, fun _ none_injected => absurd injects (none_injected error)⟩

/-- How a deletion ends. It is refused only if there is nothing to delete; an object that is held gets marked. -/
structure DeleteEnd (injected : StoreError → Prop) (kind : Kind) (key : ObjectKey) (before : Contents)
    (outcome : Except Failure Unit) (after : Contents) : Prop where
  deletes : Deletes kind key before after
  refused : ∀ failure, outcome = .error failure →
    after = before ∧ (before kind key = none ∨ ∃ error, injected error)
  marked : outcome = .ok () → ∀ stored, before kind key = some stored → WriteRules.isHeld stored = true →
    ∃ later, after kind key = some later ∧ later.isLeaving = true

theorem ensures_delete {kind : Kind} (object : Object kind) {keeps : Contents → Prop}
    {post : Except Failure Unit → Contents → Prop}
    (ends : ∀ outcome after, DeleteEnd injected kind object.key before outcome after →
      keeps after ∧ post outcome after) :
    (Action.ask (.delete object)).Ensures (.alone injected keeps) post before := by
  refine (Action.ensures_ask_alone (.delete object)).mpr ⟨fun fresh now => ?_, fun error injects => ?_⟩
  · cases found : before kind object.key with
    | none =>
      rw [Contents.serve_delete_of_absent found]
      exact ends _ _ ⟨.idle, (fun _ _ => ⟨rfl, .inl found⟩), nofun⟩
    | some stored =>
      cases awaiting : WriteRules.isAwaitingRelease stored with
      | true =>
        rw [Contents.serve_delete_of_awaiting found awaiting]
        refine ends _ _ ⟨.idle, nofun, fun _ here same _ => ?_⟩
        cases same.symm.trans found
        exact ⟨stored, found, (Bool.and_eq_true_iff.mp awaiting).1⟩
      | false =>
        rw [Contents.serve_delete_of_found found awaiting]
        refine ends _ _ ⟨.marked found, nofun, fun _ here same held => ?_⟩
        cases same.symm.trans found
        obtain ⟨later, written⟩ := Option.isSome_iff_exists.mp (WriteRules.isSome_mark? held now)
        have leaving := WriteRules.isLeaving_of_mark? written
        refine ⟨later.withVersion (some fresh), ?_, leaving⟩
        simp only [Contents.set_self, written, Option.map_some]
  · exact ends _ _ ⟨.idle, (fun _ _ => ⟨rfl, .inr ⟨error, injects⟩⟩), nofun⟩

theorem Workflow.ensures_requestDeletion (keyed : before.Keyed) (key : ObjectKey) :
    (requestDeletion key).Ensures (.alone injected (Deletes .claim key before))
      (fun verdict after => Deletes .claim key before after ∧ (verdict.commits = false → after = before) ∧
        ((∀ error, ¬injected error) → ∀ claim, before .claim key = some claim → claim.hasMarker = true →
          ∃ later, after .claim key = some later ∧ later.isLeaving = true)) before := by
  unfold requestDeletion
  rw [Action.ensures_bind, Action.ensures_ask_alone]
  constructor
  · intro fresh now
    cases found : before .claim key with
    | none =>
      rw [Contents.serve_get_of_absent found]
      exact ⟨.idle, .idle, fun _ => rfl, nofun⟩
    | some claim =>
      rw [Contents.serve_get_of_found found]
      refine ⟨.idle, ?_⟩
      obtain rfl := keyed .claim key claim found
      rw [Action.ensures_bind]
      refine ensures_delete claim ?_
      intro outcome after ended
      refine ⟨ended.deletes, ?_⟩
      match outcome with
      | .ok () =>
        refine ⟨ended.deletes, nofun, ?_⟩
        rintro _ _ ⟨⟩ marked
        exact ended.marked rfl claim found (Object.isHeld_of_hasMarker marked)
      | .error failure =>
        obtain ⟨same, absent | ⟨error, injects⟩⟩ := ended.refused failure rfl
        · cases absent.symm.trans found
        · exact ⟨ended.deletes, fun _ => same, fun none_injected => absurd injects (none_injected error)⟩
  · exact fun error injects => ⟨.idle, .idle, fun _ => rfl, fun none_injected => absurd injects (none_injected error)⟩

namespace External

theorem ensures_deleteReference (reference : Reference) :
    (deleteReference reference).Ensures (.alone injected (Deletes .reference reference.key before))
      (fun _ => Deletes .reference reference.key before) before := by
  unfold deleteReference
  rw [Action.ensures_bind]
  exact ensures_delete reference fun _ _ ended => ⟨ended.deletes, ended.deletes⟩

theorem ensures_editFinalizers (keyed : before.Keyed) (key : ObjectKey) (finalizers : List String)
    (version : Option String) :
    (editFinalizers key finalizers version).Ensures (.alone injected (Edits key before))
      (fun _ => Edits key before) before := by
  unfold editFinalizers
  rw [Action.ensures_bind, Action.ensures_ask_alone]
  refine ⟨fun fresh now => ?_, fun _ _ => ⟨.idle, .idle⟩⟩
  cases found : before .reference key with
  | none =>
    rw [Contents.serve_get_of_absent found]
    exact ⟨.idle, .idle⟩
  | some reference =>
    rw [Contents.serve_get_of_found found]
    refine ⟨.idle, ?_⟩
    obtain rfl := keyed .reference key reference found
    rw [Action.ensures_bind, Action.ensures_ask_alone]
    refine ⟨fun fresh now => ?_, fun _ _ => ⟨.idle, .idle⟩⟩
    have own : before .reference (edited reference finalizers version).key = some reference := found
    cases matched : WriteRules.matchVersion reference (edited reference finalizers version) with
    | error refused =>
      rw [Contents.serve_update_of_refused own matched]
      exact ⟨.idle, .idle⟩
    | ok _ =>
      rw [Contents.serve_update_of_found own matched]
      split
      · exact ⟨.removed, .removed⟩
      · exact ⟨.written found rfl, .written found rfl⟩

end External

end ClaimOperator

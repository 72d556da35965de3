import ClaimOperator.Proofs.Interleaving.Passes
import ClaimOperator.Proofs.Workflow.NoOrphans

/-! Passes and requests for deletion over one store in memory, request by request in any order.

Nothing goes astray as long as every reference is created for a claim whose deletion is
not requested. That is not seen to: a pass that read the claim before its deletion was
requested can come to the creation after another pass has looked for the reference in
vain, and the claim is released all the same.
-/

set_option autoImplicit false

namespace ClaimOperator

inductive Errand where
  | pass (key : ObjectKey)
  | requestDeletion (key : ObjectKey)

def Errand.action (space : String) : Errand → Action Unit
  | pass key => (fun _ => ()) <$> Workflow.reconcile space key
  | requestDeletion key => (fun _ => ()) <$> Workflow.requestDeletion key

/-- A store in memory, and what each of its clients has still to do. -/
structure Crowd where
  store : Tables
  clients : List (Action Unit) := []

/-- A client joins, or one of them gets its next effect done. -/
inductive Move where
  | join (errand : Errand)
  | advance (client : Nat) (now : Timestamp)

namespace Crowd

/-- How the effects of the clients are answered; their notes are not kept. -/
def handler (now : Timestamp) : Handler Tables := fun effect store =>
  let (answer, after) := Service.handler Tables.serve now effect ⟨store, []⟩
  (answer, after.store)

def move (space : String) (crowd : Crowd) : Move → Crowd
  | .join errand => { crowd with clients := crowd.clients ++ [errand.action space] }
  | .advance client now =>
    match crowd.clients[client]? with
    | some (.perform effect next) =>
      let (answer, store) := handler now effect crowd.store
      ⟨store, crowd.clients.set client (next answer)⟩
    | _ => crowd

def Throughout (space : String) (holds : Contents → Prop) : List Move → Crowd → Prop
  | [], crowd => holds crowd.store.find?
  | move :: rest, crowd => holds crowd.store.find? ∧ Throughout space holds rest (crowd.move space move)

def Stepwise (space : String) (holds : Contents → Contents → Prop) : List Move → Crowd → Prop
  | [], _ => True
  | move :: rest, crowd => holds crowd.store.find? (crowd.move space move).store.find? ∧
    Stepwise space holds rest (crowd.move space move)

/-- Every client's remaining requests are such that the others can count on them. -/
structure Sound (space : String) (prompt : Prop) (crowd : Crowd) : Prop where
  filed : crowd.store.Filed space
  clients : ∀ client ∈ crowd.clients, client.Ensures (.among space prompt) (fun _ _ => True) crowd.store

variable {space : String} {prompt : Prop} {crowd : Crowd}

theorem ensures_action (errand : Errand) {store : Tables} (filed : store.Filed space) :
    (errand.action space).Ensures (.among space prompt) (fun _ _ => True) store := by
  cases errand with
  | pass key =>
    simp only [Errand.action, map_eq_pure_bind, Action.ensures_bind]
    exact Workflow.ensures_reconcile_among filed key
  | requestDeletion key =>
    simp only [Errand.action, map_eq_pure_bind, Action.ensures_bind]
    exact Workflow.ensures_requestDeletion_among filed key

theorem ensures_drifts {client : Action Unit} {before after : Tables}
    (ensures : client.Ensures (.among space prompt) (fun _ _ => True) before)
    (drifts : Tables.Drifts space prompt before after) :
    client.Ensures (.among space prompt) (fun _ _ => True) after :=
  Action.Ensures.drift Relation.ReflTransGen.trans (fun _ _ => trivial) ensures drifts

theorem Sound.effect (sound : Sound space prompt crowd) {effect : Effect} {next : effect.Answer → Action Unit}
    (member : .perform effect next ∈ crowd.clients) (now : Timestamp) :
    let result := handler now effect crowd.store
    Tables.Moves space prompt crowd.store result.2 ∧
      (next result.1).Ensures (.among space prompt) (fun _ _ => True) result.2 := by
  have ensures := sound.clients _ member
  cases effect with
  | ask request => exact ensures crowd.store .refl _ _ ⟨now, rfl⟩
  | clock => exact ⟨sound.filed.idle prompt, ensures now⟩
  | note entry => exact ⟨sound.filed.idle prompt, ensures⟩

theorem Sound.move (sound : Sound space prompt crowd) (move : Move) :
    Tables.Moves space prompt crowd.store (crowd.move space move).store ∧
      ((prompt → Contents.Prompt crowd.store.find? (crowd.move space move).store.find?) →
        Sound space prompt (crowd.move space move)) := by
  cases move with
  | join errand =>
    refine ⟨sound.filed.idle prompt, fun _ => ⟨sound.filed, fun client member => ?_⟩⟩
    rcases List.mem_append.mp member with known | joined
    · exact sound.clients client known
    · cases List.mem_singleton.mp joined
      exact ensures_action errand sound.filed
  | advance client now =>
    simp only [Crowd.move]
    split
    · next effect next selected =>
      obtain ⟨moves, later⟩ := sound.effect (List.mem_of_getElem? selected) now
      refine ⟨moves, fun promptly => ⟨moves.filed, fun other member => ?_⟩⟩
      -- To the other clients the effect is one more thing that happens while they wait.
      rcases List.mem_or_eq_of_mem_set member with known | rfl
      · exact ensures_drifts (sound.clients other known) (.single ⟨moves, promptly⟩)
      · exact later
    · exact ⟨sound.filed.idle prompt, fun _ => sound⟩

theorem Throughout.head {holds : Contents → Prop} {moves : List Move} (throughout : crowd.Throughout space holds moves) :
    holds crowd.store.find? := by
  cases moves with
  | nil => exact throughout
  | cons move rest => exact throughout.1

theorem Throughout.last {holds : Contents → Prop} {moves : List Move} (throughout : crowd.Throughout space holds moves) :
    holds (moves.foldl (Crowd.move space) crowd).store.find? := by
  induction moves generalizing crowd with
  | nil => exact throughout
  | cons move rest ih => exact ih throughout.2

theorem Sound.throughout_noStrays_iff (moves : List Move) (sound : Sound space False crowd)
    (noStrays : Contents.NoStrays crowd.store.find?) :
    crowd.Throughout space Contents.NoStrays moves ↔ crowd.Stepwise space Contents.Orderly moves := by
  induction moves generalizing crowd with
  | nil => exact ⟨fun _ => trivial, fun _ => noStrays⟩
  -- As long as there is no stray, a move leaves none exactly if it is orderly: both sides fail at the same move.
  | cons move rest ih =>
    obtain ⟨moved, later⟩ := sound.move move
    have shifts_iff := noStrays.shifts_iff moved.shifts
    constructor
    · rintro ⟨_, throughout⟩
      have kept := throughout.head
      exact ⟨shifts_iff.mp kept, (ih (later False.elim) kept).mp throughout⟩
    · rintro ⟨orderly, stepwise⟩
      exact ⟨noStrays, (ih (later False.elim) (shifts_iff.mpr orderly)).mpr stepwise⟩

/-- If every reference is created promptly, every move is orderly. -/
theorem Sound.orderly_of_prompt (moves : List Move) (sound : Sound space True crowd)
    (promptly : crowd.Stepwise space Contents.Prompt moves) : crowd.Stepwise space Contents.Orderly moves := by
  induction moves generalizing crowd with
  | nil => trivial
  | cons move rest ih =>
    obtain ⟨moved, later⟩ := sound.move move
    exact ⟨promptly.1.orderly moved.shifts, ih (later fun _ => promptly.1) promptly.2⟩

end Crowd

theorem Reachable.filed {space : String} {store : Tables} (reachable : Reachable space store) :
    store.Filed space := by
  refine ⟨?_, reachable.paired.2.derived⟩
  induction reachable with
  | empty => exact Tables.versioned_empty
  | worked now _ _ ih =>
    refine LocalStore.work_preserves ?_ ?_ _ now _ ih
    · exact fun request now store versioned => versioned.serve request now
    · exact fun _ _ _ versioned => versioned

/-- Clients come to the store that any run has led to. Then there is never a stray, for any order of their requests,
exactly if references are new only for held claims and the marker is taken off only when nothing links to the claim;
and this is so if references are new only for claims whose deletion is not requested. -/
theorem Crowd.noStrays_iff (space : String) {store : Tables} (reachable : Reachable space store) (moves : List Move) :
    (Throughout space Contents.NoStrays moves ⟨store, []⟩ ↔ Stepwise space Contents.Orderly moves ⟨store, []⟩) ∧
      (Stepwise space Contents.Prompt moves ⟨store, []⟩ → Throughout space Contents.NoStrays moves ⟨store, []⟩) := by
  have noStrays : Contents.NoStrays store.find? := by
    intro place reference found
    obtain ⟨claim, stored, marked, _⟩ := reachable.paired.2.noOrphans place reference found
    exact ⟨claim, stored, marked⟩
  have sound : ∀ prompt, Sound space prompt ⟨store, []⟩ := fun _ => ⟨reachable.filed, nofun⟩
  have strays_iff := (sound False).throughout_noStrays_iff moves noStrays
  exact ⟨strays_iff, fun promptly => strays_iff.mpr ((sound True).orderly_of_prompt moves promptly)⟩

def held : Tables :=
  let key : ObjectKey := ⟨"customer", "my-claim"⟩
  let pass := fun (store : Tables) =>
    (LocalStore.work [] .epoch (Workflow.reconcile defaultReferenceSpace key) store).2
  pass (pass (pass (LocalStore.work [] .epoch (Workflow.create key default "us-east1") LocalStore.empty).2))

theorem reachable_held : Reachable defaultReferenceSpace held := by
  have pass : ∀ store : Tables, Reachable defaultReferenceSpace store → Reachable defaultReferenceSpace
      (LocalStore.work [] .epoch (Workflow.reconcile defaultReferenceSpace ⟨"customer", "my-claim"⟩) store).2 :=
    fun _ reachable => .worked .epoch (.reconcile _ [] nofun) reachable
  exact pass _ (pass _ (pass _ (.worked .epoch (.create _ _ _) .empty)))

/-- A pass reads the claim and is held up, while the deletion of the claim is requested and another pass ends it. -/
def overtaken : List Move :=
  let key : ObjectKey := ⟨"customer", "my-claim"⟩
  [.join (.pass key), .advance 0 .epoch] ++
    .join (.requestDeletion key) :: List.replicate 4 (.advance 1 .epoch) ++
    .join (.pass key) :: List.replicate 8 (.advance 2 .epoch) ++ List.replicate 8 (.advance 0 .epoch)

theorem find?_overtaken :
    let last := (overtaken.foldl (Crowd.move defaultReferenceSpace) ⟨held, []⟩).store
    (last.find? .claim ⟨"customer", "my-claim"⟩,
        (last.find? .reference ⟨defaultReferenceSpace, "customer-my-claim"⟩).map (·.spec.claimLink)) =
      (none, some ⟨"customer", "my-claim"⟩) := by
  decide +kernel

theorem not_noStrays_overtaken :
    ¬Contents.NoStrays (overtaken.foldl (Crowd.move defaultReferenceSpace) ⟨held, []⟩).store.find? := by
  intro noStrays
  obtain ⟨gone, stored⟩ := Prod.mk.inj find?_overtaken
  obtain ⟨reference, found, link⟩ := Option.map_eq_some_iff.mp stored
  obtain ⟨claim, here, _⟩ := noStrays _ reference found
  rw [link] at here
  cases gone.symm.trans here

/-- The claim is gone, and the pass that was held up has created its reference. -/
theorem overtaken_strays :
    (overtaken.foldl (Crowd.move defaultReferenceSpace) ⟨held, []⟩).store.find? .claim ⟨"customer", "my-claim"⟩ =
        none ∧
      ((overtaken.foldl (Crowd.move defaultReferenceSpace) ⟨held, []⟩).store.find? .reference
        ⟨defaultReferenceSpace, "customer-my-claim"⟩).map (·.spec.claimLink) = some ⟨"customer", "my-claim"⟩ ∧
      ¬Crowd.Throughout defaultReferenceSpace Contents.NoStrays overtaken ⟨held, []⟩ := by
  obtain ⟨gone, stored⟩ := Prod.mk.inj find?_overtaken
  exact ⟨gone, stored, fun throughout => not_noStrays_overtaken throughout.last⟩

theorem overtaken_not_orderly : ¬Crowd.Stepwise defaultReferenceSpace Contents.Orderly overtaken ⟨held, []⟩ := by
  intro orderly
  obtain ⟨strays_iff, _⟩ := Crowd.noStrays_iff defaultReferenceSpace reachable_held overtaken
  exact not_noStrays_overtaken (strays_iff.mpr orderly).last

end ClaimOperator

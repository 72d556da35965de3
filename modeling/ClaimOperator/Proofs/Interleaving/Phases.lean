import ClaimOperator.Proofs.Interleaving.Contenders
import ClaimOperator.Proofs.Interleaving.Crowds

/-! The phase of a stored claim never moves backwards.

Passes, single calls on a claim, requests for deletion and creations take turns at one store in
memory, request by request in any order, and any request may be made to fail. As long as
a claim stays in the store its phase only moves on.
-/

set_option autoImplicit false

namespace ClaimOperator

inductive DirectCall where
  | ensurePhase (target : ClaimPhase)
  | setCondition (update : ConditionUpdate)

namespace DirectCall

def operation : DirectCall → Operation Change
  | ensurePhase target => Pairing.enterPhase target
  | setCondition update => Pairing.recordCondition update

/-- One call after the other; one that fails does not keep the others from being made. -/
def runAll : List DirectCall → Operation Unit
  | [] => return ()
  | call :: rest => do
    tryCatch (discard call.operation) fun _ => return ()
    runAll rest

end DirectCall

inductive Commission where
  | errand (task : Errand)
  | direct (key : ObjectKey) (calls : List DirectCall)
  | create (claim : Claim)

def Commission.action (space : String) : Commission → Action Unit
  | .errand task => task.action space
  | .direct key calls => do
    match ← Action.ask (.get .claim key) with
    | .ok claim => (fun _ => ()) <$> (DirectCall.runAll calls).runOn (.of claim space)
    | .error _ => return ()
  | .create claim => (fun _ => ()) <$> Action.ask (.create claim)

/-- A client joins, or the next effect of one of them is done, or the next request of one of them is made to fail. -/
inductive Event where
  | join (commission : Commission)
  | advance (client : Nat) (now : Timestamp)
  | fail (client : Nat) (error : StoreError)

namespace Crowd

def undergo (space : String) (crowd : Crowd) : Event → Crowd
  | .join commission => { crowd with clients := crowd.clients ++ [commission.action space] }
  | .advance client now => crowd.move space (.advance client now)
  | .fail client error =>
    match crowd.clients[client]? with
    | some (.perform (.ask _) next) => { crowd with clients := crowd.clients.set client (next (.error (.store error))) }
    | _ => crowd

def after (space : String) (events : List Event) (count : Nat) : Crowd :=
  (events.take count).foldl (undergo space) ⟨{}, []⟩

/-- No client's remaining requests take a claim back. -/
structure Contending (crowd : Crowd) : Prop where
  versioned : crowd.store.Versioned
  clients : ∀ client ∈ crowd.clients, client.Ensures .contended (fun _ _ => True) crowd.store

variable {space : String} {crowd : Crowd} {store : Tables}

theorem ensures_calls {leaving : Bool} {pairing : Pairing} (abreast : Abreast leaving pairing store)
    (calls : List DirectCall) :
    (DirectCall.runAll calls).Ensures .contended (fun _ _ _ => True) pairing store := by
  have keeps : Operation.Keeps .contended (Abreast leaving) (DirectCall.runAll calls) := by
    induction calls with
    | nil => exact .pure ()
    | cons call rest ih =>
      refine .bind (.tryCatch (.discard ?_) fun _ => .pure ()) fun _ => ih
      cases call with
      | ensurePhase target => exact Pairing.keeps_enterPhase target
      | setCondition update => exact Pairing.keeps_recordCondition update
  exact (keeps _ _ abreast).mono fun _ _ _ _ => trivial

theorem ensures_read {α : Type} (space : String) {key : ObjectKey} {next : Except Failure Claim → Action α}
    (versioned : store.Versioned)
    (reads : ∀ claim met, Abreast claim.isLeaving (.of claim space) met →
      (next (.ok claim)).Ensures .contended (fun _ _ => True) met)
    (failed : ∀ error met, met.Versioned →
      (next (.error (.store error))).Ensures .contended (fun _ _ => True) met) :
    (Action.ask (.get .claim key) >>= next).Ensures .contended (fun _ _ => True) store := by
  rw [Action.ensures_bind]
  refine Action.ensures_ask_contended (.get .claim key) versioned fun met _ versioned => ?_
  refine ⟨trivial, fun now _ => ?_, fun error => failed error met versioned⟩
  rw [Tables.serve_get]
  cases found : met.find? .claim key with
  | none => exact failed _ met versioned
  | some claim => exact reads claim met (.of_found space versioned found)

theorem ensures_reconcile (versioned : store.Versioned) (key : ObjectKey) :
    (Workflow.reconcile space key).Ensures .contended (fun _ _ => True) store := by
  refine ensures_read space versioned ?_ ?_
  · intro claim met abreast
    refine (Action.ensures_bind _ _ _).mpr (Action.Ensures.mono (Pass.ensures_run_contended abreast) ?_)
    rintro ⟨outcome, pairing⟩ after _
    cases outcome with
    | ok result => trivial
    | error failure => cases failure <;> trivial
  · intro error met _
    dsimp only
    split <;> trivial

theorem ensures_requestDeletion (versioned : store.Versioned) (key : ObjectKey) :
    (Workflow.requestDeletion key).Ensures .contended (fun _ _ => True) store := by
  refine ensures_read "" versioned ?_ fun _ _ _ => trivial
  intro claim met abreast
  refine (Action.ensures_bind _ _ _).mpr (Action.ensures_ask_contended (.delete claim) abreast.versioned ?_)
  refine fun met _ _ => ⟨trivial, fun now _ => ?_, fun _ => trivial⟩
  cases (Tables.serve (.delete claim) now met).1 <;> trivial

theorem ensures_commission (commission : Commission) (versioned : store.Versioned) :
    (commission.action space).Ensures .contended (fun _ _ => True) store := by
  cases commission with
  | errand task =>
    cases task with
    | pass key =>
      simp only [Commission.action, Errand.action, map_eq_pure_bind, Action.ensures_bind]
      exact ensures_reconcile versioned key
    | requestDeletion key =>
      simp only [Commission.action, Errand.action, map_eq_pure_bind, Action.ensures_bind]
      exact ensures_requestDeletion versioned key
  | direct key calls =>
    refine ensures_read space versioned ?_ fun _ _ _ => trivial
    intro claim met abreast
    simp only [map_eq_pure_bind, Action.ensures_bind]
    exact Action.Ensures.mono (ensures_calls abreast calls) fun _ _ _ => trivial
  | create claim =>
    simp only [Commission.action, map_eq_pure_bind, Action.ensures_bind]
    refine Action.ensures_ask_contended (.create claim) versioned fun _ _ _ => ?_
    exact ⟨trivial, fun _ _ => trivial, fun _ => trivial⟩

namespace Contending

theorem replaced (contending : crowd.Contending) {client : Nat} {rest : Action Unit} {after : Tables}
    (forward : Tables.Forward crowd.store after) (ensures : rest.Ensures .contended (fun _ _ => True) after) :
    Contending ⟨after, crowd.clients.set client rest⟩ where
  versioned := forward.versioned
  clients := by
    intro other member
    rcases List.mem_or_eq_of_mem_set member with known | rfl
    · exact Action.Ensures.drift Relation.ReflTransGen.trans (fun _ _ => trivial) (contending.clients other known)
        (.single forward)
    · exact ensures

theorem effect (contending : crowd.Contending) {effect : Effect} {next : effect.Answer → Action Unit}
    (member : .perform effect next ∈ crowd.clients) (now : Timestamp) :
    let result := handler now effect crowd.store
    Tables.Forward crowd.store result.2 ∧
      (next result.1).Ensures .contended (fun _ _ => True) result.2 := by
  have ensures := contending.clients _ member
  cases effect with
  | ask request => exact ensures crowd.store .refl _ _ (.inl ⟨now, rfl⟩)
  | clock => exact ⟨contending.versioned.idle, ensures now⟩
  | note entry => exact ⟨contending.versioned.idle, ensures⟩

theorem undergo (contending : crowd.Contending) (event : Event) :
    Tables.Forward crowd.store (crowd.undergo space event).store ∧ (crowd.undergo space event).Contending := by
  cases event with
  | join commission =>
    refine ⟨contending.versioned.idle, contending.versioned, fun client member => ?_⟩
    rcases List.mem_append.mp member with known | joined
    · exact contending.clients client known
    · cases List.mem_singleton.mp joined
      exact ensures_commission commission contending.versioned
  | advance client now =>
    simp only [Crowd.undergo, Crowd.move]
    split
    · next effect next selected =>
      obtain ⟨forward, later⟩ := contending.effect (List.mem_of_getElem? selected) now
      exact ⟨forward, contending.replaced forward later⟩
    · exact ⟨contending.versioned.idle, contending⟩
  | fail client error =>
    simp only [Crowd.undergo]
    split
    · next request next selected =>
      have ensures := contending.clients _ (List.mem_of_getElem? selected)
      obtain ⟨forward, later⟩ := ensures crowd.store .refl _ _ (.inr ⟨error, rfl, rfl⟩)
      exact ⟨forward, contending.replaced forward later⟩
    · exact ⟨contending.versioned.idle, contending⟩

end Contending

theorem contending_empty : Contending ⟨{}, []⟩ := ⟨Tables.versioned_empty, nofun⟩

variable (space : String) (events : List Event)

variable {count : Nat}

/-- From each moment to the next no claim is taken back. Once there are no more events nothing changes. -/
theorem Contending.next (contending : (after space events count).Contending) :
    Tables.Forward (after space events count).store (after space events (count + 1)).store ∧
      (after space events (count + 1)).Contending := by
  have more : after space events (count + 1) =
      events[count]?.toList.foldl (Crowd.undergo space) (after space events count) := by
    rw [after, List.take_add_one, List.foldl_append, after]
  rw [more]
  cases events[count]? with
  | none => exact ⟨contending.versioned.idle, contending⟩
  | some event => exact contending.undergo event

theorem contending_after (count : Nat) : (after space events count).Contending := by
  induction count with
  | zero => exact contending_empty
  | succ count ih => exact (ih.next space events).2

/-- As long as a claim stays in the store, its phase never lies behind one that it had before. -/
theorem phase_never_back (key : ObjectKey) {first last : Nat} (ordered : first ≤ last)
    (stays : ∀ moment, first ≤ moment → moment ≤ last →
      ((after space events moment).store.find? .claim key).isSome)
    {earlier later : Claim} (before : (after space events first).store.find? .claim key = some earlier)
    (after : (after space events last).store.find? .claim key = some later) :
    ClaimPhase.rank earlier.status.phase ≤ ClaimPhase.rank later.status.phase := by
  induction last, ordered using Nat.le_induction generalizing later with
  | base => rw [Option.some.inj (before.symm.trans after)]
  | succ last ordered ih =>
    obtain ⟨between, found⟩ := Option.isSome_iff_exists.mp (stays last ordered last.le_succ)
    have reached := ih (fun moment from_ upto => stays moment from_ (upto.trans last.le_succ)) found
    exact reached.trans (((contending_after space events last).next space events).1.onward found after)

/-- A pass comes to write the phase and is made to fail. Before it records that, another client enters the last
phase, and the record, whose snapshot has an earlier one, is refused. -/
def contest : List Event :=
  let key : ObjectKey := ⟨"customer", "my-claim"⟩
  let advance (client count : Nat) := List.replicate count (Event.advance client .epoch)
  [.join (.create (Workflow.newClaim key default "us-east1")), .advance 0 .epoch] ++
    .join (.errand (.pass key)) :: advance 1 3 ++
    .join (.errand (.pass key)) :: advance 2 2 ++ .fail 2 (.injected .other "refused") ::
    .join (.direct key [.ensurePhase .ready]) :: advance 3 3 ++ advance 2 6

theorem phase_contest :
    let phase (moment : Nat) := ((after defaultReferenceSpace contest moment).store.find? .claim
      ⟨"customer", "my-claim"⟩).map (·.status.phase)
    (phase 2, phase contest.length) = (some none, some (some .ready)) := by
  decide +kernel

/-- From its creation to the end of the contest the claim has not gone back. -/
theorem phase_contest_never_back :
    ∃ earlier later,
      (after defaultReferenceSpace contest 2).store.find? .claim ⟨"customer", "my-claim"⟩ = some earlier ∧
      (after defaultReferenceSpace contest contest.length).store.find? .claim ⟨"customer", "my-claim"⟩ = some later ∧
      later.status.phase = some .ready ∧
      ClaimPhase.rank earlier.status.phase ≤ ClaimPhase.rank later.status.phase := by
  obtain ⟨created, ended⟩ := Prod.mk.inj phase_contest
  obtain ⟨earlier, before, _⟩ := Option.map_eq_some_iff.mp created
  obtain ⟨later, after, ready⟩ := Option.map_eq_some_iff.mp ended
  refine ⟨earlier, later, before, after, ready, ?_⟩
  exact phase_never_back defaultReferenceSpace contest _ (by decide) (by decide +kernel) before after

end Crowd

end ClaimOperator

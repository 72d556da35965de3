import ClaimOperator.Proofs.Store.Counting
import Mathlib.Data.Set.Basic

/-! How little of a table of rows a request depends on.

A request reads and writes the entry under its own title, and since a row counts its own writes, no other
entry has a part in the version that is given out. Tables with the same entries have the same rows, though
not always in the same order.
-/

set_option autoImplicit false

namespace ClaimOperator

def StoreRequest.title (request : StoreRequest) : Kind × ObjectKey := (request.kind, request.key)

namespace Contents

def Agree (titles : Set (Kind × ObjectKey)) (first second : Contents) : Prop :=
  ∀ kind key, (kind, key) ∈ titles → first kind key = second kind key

variable {titles : Set (Kind × ObjectKey)} {first second third : Contents}

theorem Agree.refl (titles : Set (Kind × ObjectKey)) (contents : Contents) : Agree titles contents contents :=
  fun _ _ _ => rfl

theorem Agree.symm (agree : Agree titles first second) : Agree titles second first :=
  fun kind key member => (agree kind key member).symm

theorem Agree.trans (agree : Agree titles first second) (agree' : Agree titles second third) :
    Agree titles first third :=
  fun kind key member => (agree kind key member).trans (agree' kind key member)

theorem Agree.mono {narrower : Set (Kind × ObjectKey)} (agree : Agree titles first second)
    (within : narrower ⊆ titles) : Agree narrower first second :=
  fun kind key member => agree kind key (within member)

variable {kind : Kind} {key : ObjectKey}

theorem settle_congr {α : Type} (outcome : Except StoreError (α × Entry kind))
    (same : first kind key = second kind key) :
    (first.settle key outcome).1 = (second.settle key outcome).1 ∧
      (first.settle key outcome).2 kind key = (second.settle key outcome).2 kind key := by
  cases outcome with
  | ok result => exact ⟨rfl, (set_self first kind key _).trans (set_self second kind key _).symm⟩
  | error error => exact ⟨rfl, same⟩

/-- The answer to a request, and the entry that it leaves, depend on the entry that it finds. -/
theorem serve_congr {request : StoreRequest} (fresh : String) (now : Timestamp)
    (same : first request.kind request.key = second request.kind request.key) :
    (first.serve fresh now request).1 = (second.serve fresh now request).1 ∧
      (first.serve fresh now request).2 request.kind request.key =
        (second.serve fresh now request).2 request.kind request.key := by
  cases request with
  | get kind key =>
    simp only [serve, StoreRequest.kind, StoreRequest.key] at same ⊢
    rw [same]
    exact settle_congr _ same
  | create object | update object | updateStatus object | delete object =>
    simp only [serve, StoreRequest.kind, StoreRequest.key] at same ⊢
    rw [same]
    exact settle_congr _ same

theorem serve_elsewhere (fresh : String) (now : Timestamp) (contents : Contents) (request : StoreRequest)
    (elsewhere : (kind, key) ≠ request.title) :
    (contents.serve fresh now request).2 kind key = contents kind key := by
  obtain ⟨entry, after, _⟩ := serve_writes fresh now contents request
  rw [after, set_of_ne _ _ elsewhere]

end Contents

namespace Rows

variable {first second rows : Rows} {kind : Kind} {key : ObjectKey}

theorem Coherent.nextVersion_of_absent (coherent : rows.Coherent) (absent : contents rows kind key = none) :
    rows.nextVersion kind key = 1 := by
  obtain ⟨_, alone, _⟩ | ⟨stored, _, _, _, here, _⟩ := coherent.look kind key
  · exact nextVersion_of_alone alone
  · cases absent.symm.trans here

theorem Coherent.nextVersion_congr (coherent : first.Coherent) (coherent' : second.Coherent)
    (same : contents first kind key = contents second kind key) :
    first.nextVersion kind key = second.nextVersion kind key := by
  cases found : contents first kind key with
  | none => rw [coherent.nextVersion_of_absent found, coherent'.nextVersion_of_absent (same.symm.trans found)]
  | some stored =>
    obtain ⟨number, next, version⟩ := numbered found
    obtain ⟨number', next', version'⟩ := numbered (same.symm.trans found)
    have := Text.decimal_inj (Option.some.inj (version.symm.trans version'))
    omega

theorem Coherent.alone {before after : Rows} {object : Object kind} {version : Nat}
    (coherent : Coherent (before ++ rowOf object version :: after)) : Alone kind object.key (before ++ after) := by
  have apart := coherent.apart
  rw [List.map_append, List.map_cons] at apart
  intro other member same
  apply (List.nodup_middle.mp apart).notMem
  rw [← List.map_append]
  exact List.mem_map.mpr ⟨other, member, same⟩

theorem Coherent.mem_iff (coherent : rows.Coherent) (row : Row) :
    row ∈ rows ↔ ∃ (kind : Kind) (object : Object kind) (version : Nat),
      contents rows kind object.key = some (object.withVersion (some (Text.decimal version))) ∧
        row = rowOf object version := by
  constructor
  · intro member
    obtain ⟨kind, object, version, _, rfl⟩ := coherent.written row member
    obtain ⟨before, after, rfl⟩ := List.append_of_mem member
    refine ⟨kind, object, version, ?_, rfl⟩
    rw [contents_middle object version coherent.alone, Contents.set_self]
  · rintro ⟨kind, object, version, here, rfl⟩
    obtain ⟨absent, _⟩ | ⟨stored, count, before, after, found, own, _, _, rfl, alone⟩ :=
      coherent.look kind object.key
    · cases absent.symm.trans here
    · -- What was found has the version of its row, and that is the version that was asked for.
      rw [← own] at found
      rw [contents_middle stored count (own ▸ alone), Contents.set_self] at found
      rw [contents_middle stored count (own ▸ alone), ← own, Contents.set_self] at here
      have stamped := congrArg (·.metadata.version) (Option.some.inj here)
      have same : count = version := Text.decimal_inj (Option.some.inj stamped)
      subst same
      have written : rowOf object count = rowOf stored count := by
        rw [rowOf, rowOf, Option.some.inj here, own]
      rw [written]
      simp

theorem Coherent.perm_of_contents (coherent : first.Coherent) (coherent' : second.Coherent)
    (same : contents first = contents second) : first.Perm second := by
  rw [List.perm_ext_iff_of_nodup (List.Nodup.of_map _ coherent.apart) (List.Nodup.of_map _ coherent'.apart)]
  intro row
  rw [coherent.mem_iff, coherent'.mem_iff, same]

namespace Connection

open Contents (Agree)

variable {first second connection : Connection} {titles : Set (Kind × ObjectKey)} {request : StoreRequest}

theorem Quiet.serve_agree (quiet : first.Quiet) (quiet' : second.Quiet) (now : Timestamp)
    (member : request.title ∈ titles) (agree : Agree titles (LocalStore.contents first) (LocalStore.contents second)) :
    (LocalStore.serve request now first).1 = (LocalStore.serve request now second).1 ∧
      Agree titles (LocalStore.contents (LocalStore.serve request now first).2)
        (LocalStore.contents (LocalStore.serve request now second).2) := by
  have here := agree request.kind request.key member
  have next : Counting.next first request.kind request.key = Counting.next second request.kind request.key :=
    quiet.rows.nextVersion_congr quiet'.rows here
  obtain ⟨answer, left⟩ :=
    Contents.serve_congr (Text.decimal (Counting.next second request.kind request.key)) now here
  rw [Counting.answer_serve quiet, Counting.answer_serve quiet', Counting.contents_serve quiet,
    Counting.contents_serve quiet', next]
  refine ⟨answer, fun kind key among => ?_⟩
  by_cases own : (kind, key) = request.title
  · obtain ⟨rfl, rfl⟩ := Prod.mk.inj own
    exact left
  · rw [Contents.serve_elsewhere _ _ _ _ own, Contents.serve_elsewhere _ _ _ _ own]
    exact agree kind key among

theorem Quiet.serve_elsewhere (quiet : connection.Quiet) (now : Timestamp) (member : request.title ∈ titles) :
    Agree titlesᶜ (LocalStore.contents connection)
      (LocalStore.contents (LocalStore.serve request now connection).2) := by
  intro kind key outside
  have own : (kind, key) ≠ request.title := fun same => outside (same ▸ member)
  rw [Counting.contents_serve quiet, Contents.serve_elsewhere _ _ _ _ own]

end Connection

end Rows

end ClaimOperator

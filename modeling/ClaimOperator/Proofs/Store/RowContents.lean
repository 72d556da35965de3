import ClaimOperator.Proofs.Manifest.RoundTrip
import ClaimOperator.Proofs.Store.Contents
import ClaimOperator.Store.Rows
import Mathlib.Data.List.Nodup

/-! The contents of the store in a table of rows, and what one request does to it.

As long as nobody else writes in between, the statement of a write hits the one row
that was read for it. Then the table answers by the same rules as the store in memory,
under versions of its own.
-/

set_option autoImplicit false

namespace ClaimOperator.Rows

variable {kind : Kind}

def title (row : Row) : Kind × ObjectKey := (row.kind, row.key)

theorem isAt_iff (kind : Kind) (key : ObjectKey) (row : Row) : isAt kind key row = true ↔ title row = (kind, key) := by
  simp [isAt, title]

/-- Every row was written for an object, and no two rows have the same key. -/
structure Coherent (rows : Rows) : Prop where
  written : ∀ row ∈ rows, ∃ (kind : Kind) (object : Object kind) (version : Nat),
    1 ≤ version ∧ row = rowOf object version
  apart : (rows.map title).Nodup

theorem coherent_nil : Coherent [] := ⟨(fun _ member => nomatch member), List.nodup_nil⟩

def contents (rows : Rows) : Contents := fun kind key =>
  (rows.find? kind key).bind fun row => (load kind row).toOption

theorem load_rowOf (object : Object kind) (version : Nat) :
    load kind (rowOf object version) = .ok (object.withVersion (some (Text.decimal version))) := by
  simp [load, rowOf, Manifest.decode_encode, Object.withVersion]

theorem title_rowOf (object : Object kind) (version : Nat) : title (rowOf object version) = (kind, object.key) := rfl

/-- The number of the version that the next write under a key is given. Every row counts its own writes, from one. -/
def nextVersion (rows : Rows) (kind : Kind) (key : ObjectKey) : Nat :=
  match rows.find? kind key with
  | some row => row.version + 1
  | none => 1

theorem nextVersion_of_get {rows : Rows} {key : ObjectKey} {stored : Object kind} {version : Nat}
    (read : rows.get kind key = .ok (stored, version)) : rows.nextVersion kind key = version + 1 := by
  unfold get at read
  cases found : rows.find? kind key with
  | none => simp [found] at read
  | some row =>
    cases loaded : load kind row with
    | error failure => simp [found, loaded, Except.map] at read
    | ok object =>
      simp only [found, loaded, Except.map, Except.ok.injEq, Prod.mk.injEq] at read
      simp only [nextVersion, found, read.2]

def Alone (kind : Kind) (key : ObjectKey) (others : Rows) : Prop := ∀ row ∈ others, title row ≠ (kind, key)

theorem Alone.find?_eq_none {key : ObjectKey} {others : Rows} (alone : Alone kind key others) :
    Rows.find? others kind key = none := by
  unfold Rows.find?
  rw [List.find?_eq_none]
  intro row member here
  exact alone row member ((isAt_iff kind key row).mp here)

theorem contents_middle {before after : Rows} (object : Object kind) (version : Nat)
    (alone : Alone kind object.key (before ++ after)) :
    contents (before ++ rowOf object version :: after) =
      (contents (before ++ after)).set kind object.key (some (object.withVersion (some (Text.decimal version)))) := by
  have first : List.find? (isAt kind object.key) before = none :=
    Alone.find?_eq_none fun row member => alone row (List.mem_append_left _ member)
  funext other key
  by_cases here : kind = other ∧ object.key = key
  · obtain ⟨rfl, rfl⟩ := here
    have at' : isAt kind object.key (rowOf object version) = true := (isAt_iff _ _ _).mpr rfl
    simp [contents, Rows.find?, List.find?_append, first, at', load_rowOf, Except.toOption]
  · have elsewhere : isAt other key (rowOf object version) = false := by
      apply Bool.eq_false_iff.mpr
      intro same
      have titles := (isAt_iff _ _ _).mp same
      rw [title_rowOf, Prod.mk.injEq] at titles
      exact here titles
    simp [contents, Rows.find?, List.find?_append, elsewhere, Contents.set, here]

theorem contents_eq_none {rows : Rows} {key : ObjectKey} (alone : Alone kind key rows) :
    contents rows kind key = none := by
  simp [contents, alone.find?_eq_none]

theorem nextVersion_of_alone {rows : Rows} {key : ObjectKey} (alone : Alone kind key rows) :
    rows.nextVersion kind key = 1 := by
  simp [nextVersion, alone.find?_eq_none]

theorem contents_without {before after : Rows} (object : Object kind) (version : Nat)
    (alone : Alone kind object.key (before ++ after)) :
    contents (before ++ after) =
      (contents (before ++ rowOf object version :: after)).set kind object.key none := by
  rw [contents_middle object version alone, Contents.set_set, ← contents_eq_none alone, Contents.set_current]

theorem Coherent.look {rows : Rows} (coherent : rows.Coherent) (kind : Kind) (key : ObjectKey) :
    (contents rows kind key = none ∧ Alone kind key rows ∧
      rows.get kind key = .error (.store (.notFound kind key))) ∨
    ∃ (stored : Object kind) (version : Nat) (before after : Rows),
      contents rows kind key = some stored ∧ stored.key = key ∧ 1 ≤ version ∧
      rows.get kind key = .ok (stored, version) ∧ rows = before ++ rowOf stored version :: after ∧
      Alone kind key (before ++ after) := by
  cases found : rows.find? kind key with
  | none =>
    left
    have alone : Alone kind key rows := by
      intro row member here
      unfold Rows.find? at found
      exact List.find?_eq_none.mp found row member ((isAt_iff kind key row).mpr here)
    exact ⟨contents_eq_none alone, alone, by simp [get, found]⟩
  | some row =>
    right
    -- The row that is found splits the rows, and as keys are distinct no other row has its key.
    obtain ⟨here, before, after, rfl, _⟩ := List.find?_eq_some_iff_append.mp found
    obtain ⟨otherKind, object, version, positive, rfl⟩ := coherent.written row (by simp)
    have same := (isAt_iff _ _ _).mp here
    rw [title_rowOf, Prod.mk.injEq] at same
    obtain ⟨rfl, rfl⟩ := same
    refine ⟨object.withVersion (some (Text.decimal version)), version, before, after, ?_, rfl, positive, ?_, rfl, ?_⟩
    · simp [contents, found, load_rowOf, Except.toOption]
    · simp [get, found, load_rowOf, Except.map]
      rfl
    · have apart := coherent.apart
      rw [List.map_append, List.map_cons] at apart
      have outside := (List.nodup_middle.mp apart).notMem
      intro other member same
      apply outside
      have same : title other = title (rowOf object version) := same
      rw [← List.map_append, ← same]
      exact List.mem_map_of_mem member

/-! What the statements do to the one row that has the key. -/

section Statements

variable {key : ObjectKey} {before after : Rows} {stored : Object kind} {version : Nat}

theorem not_isVersion_of_alone {others : Rows} (alone : Alone kind key others) (version : Nat) :
    ∀ row ∈ others, isVersion kind key version row = false := by
  intro row member
  have elsewhere : isAt kind key row = false :=
    Bool.eq_false_iff.mpr fun here => alone row member ((isAt_iff kind key row).mp here)
  simp [isVersion, elsewhere]

theorem countP_eq_one (own : stored.key = key) (alone : Alone kind key (before ++ after)) :
    (before ++ rowOf stored version :: after).countP (isVersion kind key version) = 1 := by
  have others := not_isVersion_of_alone alone version
  have here : isVersion kind key version (rowOf stored version) = true := by
    subst own
    simp [isVersion, isAt, rowOf]
  have none_before : before.countP (isVersion kind key version) = 0 :=
    List.countP_eq_zero.mpr fun row member => by simp [others row (List.mem_append_left _ member)]
  have none_after : after.countP (isVersion kind key version) = 0 :=
    List.countP_eq_zero.mpr fun row member => by simp [others row (List.mem_append_right _ member)]
  rw [List.countP_append, List.countP_cons_of_pos here, none_before, none_after]

theorem execute_update (version : Nat) (own : stored.key = key) (alone : Alone kind key (before ++ after)) (row : Row) :
    Statement.execute (.update kind key version row) (before ++ rowOf stored version :: after) =
      (1, before ++ row :: after) := by
  have others := not_isVersion_of_alone alone version
  have here : isVersion kind key version (rowOf stored version) = true := by
    subst own
    simp [isVersion, isAt, rowOf]
  have stay : ∀ part : Rows, (∀ other ∈ part, isVersion kind key version other = false) →
      part.map (fun current => if isVersion kind key version current then row else current) = part := by
    intro part outside
    exact (List.map_congr_left fun other member => by simp [outside other member]).trans (List.map_id part)
  simp only [Statement.execute, countP_eq_one own alone, List.map_append, List.map_cons, here, ↓reduceIte]
  rw [stay before fun other member => others other (List.mem_append_left _ member),
    stay after fun other member => others other (List.mem_append_right _ member)]

theorem execute_delete (version : Nat) (own : stored.key = key) (alone : Alone kind key (before ++ after)) :
    Statement.execute (.delete kind key version) (before ++ rowOf stored version :: after) =
      (1, before ++ after) := by
  have others := not_isVersion_of_alone alone version
  have here : isVersion kind key version (rowOf stored version) = true := by
    subst own
    simp [isVersion, isAt, rowOf]
  have stay : ∀ part : Rows, (∀ other ∈ part, isVersion kind key version other = false) →
      part.filter (fun row => !isVersion kind key version row) = part := by
    intro part outside
    exact List.filter_eq_self.mpr fun other member => by simp [outside other member]
  simp only [Statement.execute, countP_eq_one own alone, List.filter_append]
  rw [List.filter_cons_of_neg (by simp [here]),
    stay before fun other member => others other (List.mem_append_left _ member),
    stay after fun other member => others other (List.mem_append_right _ member)]

theorem execute_insert {rows : Rows} (row : Row) (alone : Alone row.kind row.key rows) :
    Statement.execute (.insert row) rows = (1, rows ++ [row]) := by
  simp [Statement.execute, alone.find?_eq_none]

theorem Coherent.replace (coherent : Coherent (before ++ rowOf stored version :: after)) {object : Object kind}
    (own : object.key = stored.key) {next : Nat} (positive : 1 ≤ next) :
    Coherent (before ++ rowOf object next :: after) where
  written row member := by
    rcases List.mem_append.mp member with front | back
    · exact coherent.written row (List.mem_append_left _ front)
    · rcases List.mem_cons.mp back with rfl | back
      · exact ⟨kind, object, next, positive, rfl⟩
      · exact coherent.written row (List.mem_append_right _ (List.mem_cons_of_mem _ back))
  apart := by
    have apart := coherent.apart
    rw [List.map_append, List.map_cons, title_rowOf] at apart ⊢
    rwa [own]

theorem Coherent.without {row : Row} (coherent : Coherent (before ++ row :: after)) : Coherent (before ++ after) where
  written other member := by
    apply coherent.written other
    rcases List.mem_append.mp member with front | back
    · exact List.mem_append_left _ front
    · exact List.mem_append_right _ (List.mem_cons_of_mem _ back)
  apart := by
    have apart := coherent.apart
    rw [List.map_append, List.map_cons] at apart
    rw [List.map_append]
    exact (List.nodup_middle.mp apart).of_cons

theorem Coherent.append {rows : Rows} (coherent : Coherent rows) {object : Object kind}
    (alone : Alone kind object.key rows) {first : Nat} (positive : 1 ≤ first) :
    Coherent (rows ++ [rowOf object first]) where
  written row member := by
    rcases List.mem_append.mp member with old | new
    · exact coherent.written row old
    · exact ⟨kind, object, first, positive, List.mem_singleton.mp new⟩
  apart := by
    rw [List.map_append]
    refine List.Nodup.append coherent.apart (List.nodup_singleton _) ?_
    intro other old new
    obtain ⟨row, member, rfl⟩ := List.mem_map.mp old
    exact alone row member (List.mem_singleton.mp new)

end Statements

namespace Connection

/-- Nobody is waiting to get in between, and no two rows have one key. -/
structure Sole (connection : Connection) : Prop where
  race : connection.race = none
  apart : (connection.rows.map title).Nodup

theorem Sole.send {connection : Connection} (sole : connection.Sole) (statement : Statement) :
    connection.send statement =
      ((statement.execute connection.rows).1, { connection with rows := (statement.execute connection.rows).2 }) := by
  simp [Connection.send, meet, sole.race]

/-- Nobody is waiting to get in between, and the rows are coherent. -/
structure Quiet (connection : Connection) : Prop where
  race : connection.race = none
  rows : connection.rows.Coherent

variable {connection : Connection} {key : ObjectKey}

theorem Quiet.sole (quiet : connection.Quiet) : connection.Sole := ⟨quiet.race, quiet.rows.apart⟩

/-- What a request comes to: the answer and the contents after it are those of `outcome`. -/
def Meets {α : Type} (served : Except Failure α × Connection) (outcome : Except Failure α × Contents) : Prop :=
  served.2.Quiet ∧ (served.1, Rows.contents served.2.rows) = outcome

theorem Quiet.refuse {α : Type} (quiet : connection.Quiet) (failure : Failure) :
    Meets ((.error failure : Except Failure α), connection) (.error failure, Rows.contents connection.rows) :=
  ⟨quiet, rfl⟩

theorem Meets.forget {served : Except Failure (Option String) × Connection} {answer : Option String}
    {contents : Contents} (meets : Meets served (.ok answer, contents)) :
    Meets (served.1.map fun _ => (), served.2) (.ok (), contents) := by
  obtain ⟨quiet, same⟩ := meets
  rw [Prod.mk.injEq] at same
  refine ⟨quiet, ?_⟩
  rw [same.1, same.2]
  rfl

variable {stored : Object kind} {version : Nat} {before after : Rows}

theorem Quiet.replace (quiet : connection.Quiet) (found : connection.rows = before ++ rowOf stored version :: after)
    (own : stored.key = key) (alone : Alone kind key (before ++ after)) (object : Object kind)
    (same : object.key = key) :
    Meets (connection.perform (.ok (replaceRow object version)))
      (.ok (some (Text.decimal (version + 1))), (Rows.contents connection.rows).set kind key
        (some (object.withVersion (some (Text.decimal (version + 1)))))) := by
  have executed := execute_update version own alone (rowOf object (version + 1))
  have coherent := quiet.rows
  rw [found] at coherent
  subst own
  simp only [perform, replaceRow, same, quiet.sole.send, found, executed, ↓reduceIte]
  refine ⟨⟨quiet.race, coherent.replace same (Nat.le_add_left 1 version)⟩, ?_⟩
  rw [contents_middle object (version + 1) (same ▸ alone), contents_middle stored version alone, same,
    Contents.set_set]

theorem Quiet.remove (quiet : connection.Quiet) (found : connection.rows = before ++ rowOf stored version :: after)
    (own : stored.key = key) (alone : Alone kind key (before ++ after)) (object : Object kind)
    (same : object.key = key) :
    Meets (connection.perform (.ok (deleteRow object version)))
      (.ok none, (Rows.contents connection.rows).set kind key none) := by
  have executed := execute_delete version own alone
  have coherent := quiet.rows
  rw [found] at coherent
  subst own
  simp only [perform, deleteRow, same, quiet.sole.send, found, executed, ↓reduceIte]
  refine ⟨⟨quiet.race, coherent.without⟩, ?_⟩
  rw [← contents_without stored version alone]

theorem Quiet.insert (quiet : connection.Quiet) (object : Object kind)
    (alone : Alone kind object.key connection.rows) (missed : StoreError) :
    Meets (connection.perform (.ok ⟨.insert (rowOf object 1), some (Text.decimal 1), missed⟩))
      (.ok (some (Text.decimal 1)), (Rows.contents connection.rows).set kind object.key
        (some (object.withVersion (some (Text.decimal 1))))) := by
  have executed := execute_insert (rowOf object 1) alone
  have middle : Rows.contents (connection.rows ++ [rowOf object 1]) = _ :=
    contents_middle object 1 (by simpa using alone)
  simp only [perform, quiet.sole.send, executed, ↓reduceIte]
  refine ⟨⟨quiet.race, quiet.rows.append alone (Nat.le_refl 1)⟩, ?_⟩
  rw [middle, List.append_nil]

theorem Quiet.get (quiet : connection.Quiet) (kind : Kind) (key : ObjectKey) (fresh : String) (now : Timestamp) :
    Meets (Connection.serve (.get kind key) now connection)
      (Contents.serve fresh now (Rows.contents connection.rows) (.get kind key)) := by
  obtain ⟨absent, _, read⟩ | ⟨stored, version, _, _, found, _, _, read, _⟩ := quiet.rows.look kind key
  · simp only [serve_get, Contents.serve, Entry.get, absent, read, Except.map]
    exact quiet.refuse _
  · have current := Contents.set_current (Rows.contents connection.rows) kind key
    rw [found] at current
    simp only [serve_get, Contents.serve, Entry.get, found, read, Except.map, Contents.settle, current]
    exact ⟨quiet, rfl⟩

theorem Quiet.create (quiet : connection.Quiet) (object : Object kind) (now : Timestamp) :
    Meets (Connection.serve (.create object) now connection)
      (Contents.serve (Text.decimal (connection.rows.nextVersion kind object.key)) now
        (Rows.contents connection.rows) (.create object)) := by
  obtain ⟨absent, alone, _⟩ | ⟨stored, _, _, _, found, _⟩ := quiet.rows.look kind object.key
  · rw [nextVersion_of_alone alone]
    simp only [serve_create, planCreate, alone.find?_eq_none, Contents.serve, Entry.create, absent]
    exact quiet.insert (WriteRules.newborn object) alone _
  · obtain ⟨row, taken⟩ : ∃ row, connection.rows.find? kind object.key = some row := by
      cases look : connection.rows.find? kind object.key with
      | none => simp [Rows.contents, look] at found
      | some row => exact ⟨row, rfl⟩
    simp only [serve_create, planCreate, taken, Contents.serve, Entry.create, found]
    exact quiet.refuse _

theorem Quiet.update (quiet : connection.Quiet) (object : Object kind) (now : Timestamp) :
    Meets (Connection.serve (.update object) now connection)
      (Contents.serve (Text.decimal (connection.rows.nextVersion kind object.key)) now
        (Rows.contents connection.rows) (.update object)) := by
  obtain ⟨absent, _, read⟩ | ⟨stored, version, before, after, found, own, _, read, rows, alone⟩ :=
    quiet.rows.look kind object.key
  · simp only [serve_update, planUpdate, read, bind, Except.bind, Contents.serve, Entry.update,
      Entry.overwrite, absent]
    exact quiet.refuse _
  -- Nobody was there since the row was read, so the statement that names its version hits it.
  · rw [nextVersion_of_get read]
    cases matched : WriteRules.matchVersion stored object with
    | error refused =>
      simp only [serve_update, planUpdate, read, bind, Except.bind, checkedVersion, matched, Except.mapError,
        Contents.serve, Entry.update, Entry.overwrite, found, Except.map]
      exact quiet.refuse _
    | ok _ =>
      simp only [serve_update, planUpdate, read, bind, Except.bind, checkedVersion, matched, Except.mapError,
        Contents.serve, Entry.update, Entry.overwrite, found, Except.map]
      split
      · exact quiet.remove rows own alone _ rfl
      · exact quiet.replace rows own alone _ rfl

theorem Quiet.updateStatus (quiet : connection.Quiet) (object : Object kind) (now : Timestamp) :
    Meets (Connection.serve (.updateStatus object) now connection)
      (Contents.serve (Text.decimal (connection.rows.nextVersion kind object.key)) now
        (Rows.contents connection.rows) (.updateStatus object)) := by
  obtain ⟨absent, _, read⟩ | ⟨stored, version, before, after, found, own, _, read, rows, alone⟩ :=
    quiet.rows.look kind object.key
  · simp only [serve_updateStatus, planUpdateStatus, read, bind, Except.bind, Contents.serve, Entry.updateStatus,
      Entry.overwrite, absent]
    exact quiet.refuse _
  · rw [nextVersion_of_get read]
    cases matched : WriteRules.matchVersion stored object with
    | error refused =>
      simp only [serve_updateStatus, planUpdateStatus, read, bind, Except.bind, checkedVersion, matched,
        Except.mapError, Contents.serve, Entry.updateStatus, Entry.overwrite, found, Except.map]
      exact quiet.refuse _
    | ok _ =>
      simp only [serve_updateStatus, planUpdateStatus, read, bind, Except.bind, checkedVersion, matched,
        Except.mapError, Contents.serve, Entry.updateStatus, Entry.overwrite, found, Except.map]
      -- The key is the stored object's here: a write of the status takes over nothing else.
      exact quiet.replace rows own alone (WriteRules.reviseStatus stored object) own

theorem Quiet.delete (quiet : connection.Quiet) (object : Object kind) (now : Timestamp) :
    Meets (Connection.serve (.delete object) now connection)
      (Contents.serve (Text.decimal (connection.rows.nextVersion kind object.key)) now
        (Rows.contents connection.rows) (.delete object)) := by
  obtain ⟨absent, _, read⟩ | ⟨stored, version, before, after, found, own, _, read, rows, alone⟩ :=
    quiet.rows.look kind object.key
  · simp only [serve_delete, planDelete, read, bind, Except.bind, Contents.serve, Entry.delete, absent]
    exact quiet.refuse _
  · rw [nextVersion_of_get read]
    have current := Contents.set_current (Rows.contents connection.rows) kind object.key
    rw [found] at current
    simp only [serve_delete, planDelete, read, bind, Except.bind, Contents.serve, Entry.delete, found]
    split
    · simp only [pure, Except.pure, performDelete, Contents.settle, current]
      exact ⟨quiet, rfl⟩
    · cases marked : WriteRules.mark? stored now with
      | none =>
        simp only [pure, Except.pure, performDelete]
        exact (quiet.remove rows own alone stored own).forget
      | some written =>
        simp only [pure, Except.pure, performDelete]
        exact (quiet.replace rows own alone written ((WriteRules.key_of_mark? marked).trans own)).forget

/-- The table of rows answers by the shared rules, and gives out the next version of the row that is asked for. -/
theorem Quiet.serve (quiet : connection.Quiet) (request : StoreRequest) (now : Timestamp) :
    Meets (Connection.serve request now connection)
      (Contents.serve (Text.decimal (connection.rows.nextVersion request.kind request.key)) now
        (Rows.contents connection.rows) request) := by
  cases request with
  | get kind key => exact quiet.get kind key _ now
  | create object => exact quiet.create object now
  | update object => exact quiet.update object now
  | updateStatus object => exact quiet.updateStatus object now
  | delete object => exact quiet.delete object now

end Connection

end ClaimOperator.Rows

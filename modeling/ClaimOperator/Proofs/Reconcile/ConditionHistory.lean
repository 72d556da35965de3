import ClaimOperator.Reconcile.ErrorCondition
import Mathlib.Data.List.DropRight

/-! The error condition over a whole history of reports.

A condition that is not there is recorded by the first true report, and nothing is written before. From then
on every report rewrites the one entry where it lies. Since when the entry has had its status is a matter of
the whole history: since the first report of the last unbroken block, unless the block goes back to the status
that the entry started with.
-/

set_option autoImplicit false

namespace ClaimOperator

structure Report where
  update : ConditionUpdate
  now : Timestamp
  deriving DecidableEq

namespace Report

abbrev status (report : Report) : ConditionStatus := report.update.status

/-- The reports at the end that all have this status. -/
def lastBlock (status : ConditionStatus) (reports : List Report) : List Report :=
  reports.rtakeWhile (·.status = status)

theorem lastBlock_append (reports : List Report) (report : Report) :
    lastBlock report.status (reports ++ [report]) = lastBlock report.status reports ++ [report] :=
  List.rtakeWhile_concat_pos _ _ _ (decide_eq_true rfl)

end Report

namespace ConditionUpdate

variable (update : ConditionUpdate) (now : Timestamp)

theorem applyTo?_of_untracked {conditions : List Condition}
    (untracked : ∀ condition ∈ conditions, condition.isTracked = false) :
    update.applyTo? now conditions =
      if update.status = .isTrue then some (conditions ++ [update.entry now]) else none := by
  induction conditions with
  | nil => rfl
  | cons condition rest ih =>
    have first := untracked condition List.mem_cons_self
    unfold applyTo?
    rw [first, if_neg Bool.false_ne_true, ih fun other member => untracked other (List.mem_cons_of_mem _ member)]
    split <;> rfl

theorem applyTo?_of_tracked {before after : List Condition} {entry : Condition}
    (untracked : ∀ condition ∈ before, condition.isTracked = false) (tracked : entry.isTracked = true) :
    update.applyTo? now (before ++ entry :: after) = some (before ++ update.revise now entry :: after) := by
  induction before with
  | nil =>
    rw [List.nil_append, applyTo?, if_pos tracked]
    rfl
  | cons condition rest ih =>
    have first := untracked condition List.mem_cons_self
    rw [List.cons_append, applyTo?, first, if_neg Bool.false_ne_true,
      ih fun other member => untracked other (List.mem_cons_of_mem _ member)]
    rfl

end ConditionUpdate

namespace Condition

def revised (entry : Condition) (reports : List Report) : Condition :=
  reports.foldl (fun entry report => report.update.revise report.now entry) entry

def statusAfter (original : Option Condition) (reports : List Report) : Option ConditionStatus :=
  (reports.getLast?.map Report.status).or (original.map Condition.status)

/-- Since when there has been this status: since the first report of the last unbroken block with it, or for
as long as the original entry if the block goes back to that. -/
def since (original : Option Condition) (reports : List Report) (status : ConditionStatus) : Option Timestamp :=
  if Report.lastBlock status reports = reports ∧ original.map Condition.status = some status then
    original.map Condition.transitionTime
  else (Report.lastBlock status reports).head?.map Report.now

/-- An entry has its status since it says, after reports that began with an original entry or with none. -/
structure Dated (original : Option Condition) (reports : List Report) (entry : Condition) : Prop where
  status : statusAfter original reports = some entry.status
  time : since original reports entry.status = some entry.transitionTime

variable {original : Option Condition} {reports : List Report} {entry : Condition} {report : Report}

theorem lastBlock_of_turned {status : ConditionStatus} (turned : statusAfter original reports ≠ some status) :
    Report.lastBlock status reports = [] := by
  induction reports using List.reverseRecOn with
  | nil => exact List.rtakeWhile_nil _
  | append_singleton earlier last _ =>
    have different : last.status ≠ status := by
      intro same
      exact turned (by simp [statusAfter, same])
    exact List.rtakeWhile_concat_neg _ _ _ (by simpa using different)

theorem since_append_of_same (met : statusAfter original reports = some report.status) :
    since original (reports ++ [report]) report.status = since original reports report.status := by
  simp only [since, Report.lastBlock_append, List.append_left_inj]
  split
  · rfl
  · next broken =>
    have block : Report.lastBlock report.status reports ≠ [] := by
      obtain rfl | ⟨earlier, last, rfl⟩ := List.eq_nil_or_concat' reports
      · exact absurd ⟨rfl, met⟩ broken
      · have same : last.status = report.status := by simpa [statusAfter] using met
        rw [← same, Report.lastBlock_append]
        exact List.append_ne_nil_of_right_ne_nil _ (List.cons_ne_nil _ _)
    rw [List.head?_append_of_ne_nil _ block]

theorem since_append_of_turned (turned : statusAfter original reports ≠ some report.status) :
    since original (reports ++ [report]) report.status = some report.now := by
  have alone : ¬ (([] : List Report) = reports ∧ original.map Condition.status = some report.status) := by
    rintro ⟨rfl, started⟩
    exact turned started
  simp only [since, Report.lastBlock_append, lastBlock_of_turned turned, List.append_left_inj]
  rw [if_neg alone]
  rfl

theorem Dated.revise (dated : Dated original reports entry) (report : Report) :
    Dated original (reports ++ [report]) (report.update.revise report.now entry) where
  status := by simp [statusAfter, ConditionUpdate.revise]
  time := by
    have revised : (report.update.revise report.now entry).status = report.status := rfl
    rw [revised]
    by_cases same : entry.status = report.status
    · have kept : (report.update.revise report.now entry).transitionTime = entry.transitionTime := if_pos same
      rw [since_append_of_same (same ▸ dated.status), kept, ← same, dated.time]
    · have moved : (report.update.revise report.now entry).transitionTime = report.now := if_neg same
      have turned : statusAfter original reports ≠ some report.status := by
        rw [dated.status]
        exact fun met => same (Option.some.inj met)
      rw [since_append_of_turned turned, moved]

theorem Dated.revised (dated : Dated original reports entry) (more : List Report) :
    Dated original (reports ++ more) (entry.revised more) := by
  induction more generalizing reports entry with
  | nil => rwa [List.append_nil]
  | cons report rest ih =>
    rw [List.append_cons]
    exact ih (dated.revise report)

structure Tells (entry : Condition) (report : Report) : Prop where
  status : entry.status = report.status
  reason : entry.reason = report.update.reason
  message : entry.message = report.update.message
  probeTime : entry.probeTime = report.now

theorem revised_append (entry : Condition) (reports : List Report) (last : Report) :
    entry.revised (reports ++ [last]) = last.update.revise last.now (entry.revised reports) := by
  simp [revised]

theorem type_revised (entry : Condition) (reports : List Report) : (entry.revised reports).type = entry.type := by
  induction reports generalizing entry with
  | nil => rfl
  | cons report rest ih => exact ih _

/-- What an entry has come to after reports, the first of which it may be due to. -/
structure Sums (original : Option Condition) (reports : List Report) (entry : Condition) : Prop where
  tracked : entry.isTracked = true
  last : ∀ last, reports.getLast? = some last → entry.Tells last
  time : since original reports entry.status = some entry.transitionTime

theorem sums_revised (tracked : entry.isTracked = true) (reports : List Report) :
    Sums (some entry) reports (entry.revised reports) where
  tracked := by
    rw [isTracked, type_revised]
    exact tracked
  last last ends := by
    obtain ⟨earlier, rfl⟩ := List.getLast?_eq_some_iff.mp ends
    rw [revised_append]
    exact ⟨rfl, rfl, rfl, rfl⟩
  time := by
    have start : Dated (some entry) [] entry := ⟨rfl, if_pos ⟨rfl, rfl⟩⟩
    exact (start.revised reports).time

theorem sums_entry (first : Report) (more : List Report) :
    Sums none (first :: more) ((first.update.entry first.now).revised more) where
  tracked := by
    rw [isTracked, type_revised]
    rfl
  last last ends := by
    obtain rfl | ⟨earlier, final, rfl⟩ := List.eq_nil_or_concat' more
    · cases ends
      exact ⟨rfl, rfl, rfl, rfl⟩
    · rw [← List.cons_append, List.getLast?_concat] at ends
      cases ends
      rw [revised_append]
      exact ⟨rfl, rfl, rfl, rfl⟩
  time := by
    have start : Dated none [first] (first.update.entry first.now) := by
      refine ⟨rfl, ?_⟩
      exact since_append_of_turned (show statusAfter none [] ≠ some first.status by simp [statusAfter])
    exact (start.revised more).time

end Condition

namespace ClaimStatus

def record (status : ClaimStatus) (report : Report) : Bool × ClaimStatus :=
  match status.update? report.update report.now with
  | some later => (true, later)
  | none => (false, status)

def recordAll : List Report → ClaimStatus → List Bool × ClaimStatus
  | [], status => ([], status)
  | report :: rest, status =>
    let (written, later) := status.record report
    let (answers, last) := recordAll rest later
    (written :: answers, last)

abbrev listed (status : ClaimStatus) : List Condition := status.conditions.getD []

def trackedCount (status : ClaimStatus) : Nat := status.listed.countP Condition.isTracked

/-- What becomes of the error condition over any history of reports. -/
structure Chronicle (status : ClaimStatus) (reports : List Report) : Prop where
  -- Nothing is written, and conditions that are not initialised stay so.
  silent : status.errorCondition? = none → (∀ report ∈ reports, report.status ≠ .isTrue) →
    status.recordAll reports = (reports.map fun _ => false, status)
  appended : ∀ before first more, reports = before ++ first :: more → status.errorCondition? = none →
    (∀ report ∈ before, report.status ≠ .isTrue) → first.status = .isTrue →
      ∃ entry, Condition.Sums none (first :: more) entry ∧
        status.recordAll reports =
          ((before.map fun _ => false) ++ (first :: more).map fun _ => true,
            { status with conditions := some (status.listed ++ [entry]) })
  rewritten : ∀ before original after, status.conditions = some (before ++ original :: after) →
    (∀ condition ∈ before, condition.isTracked = false) → original.isTracked = true →
      ∃ entry, Condition.Sums (some original) reports entry ∧
        status.recordAll reports =
          (reports.map fun _ => true, { status with conditions := some (before ++ entry :: after) })
  counted : status.errorCondition? ≠ none ∨ (∃ report ∈ reports, report.status = .isTrue) →
    (status.recordAll reports).2.trackedCount = max 1 status.trackedCount

variable {status : ClaimStatus} {report : Report}

theorem untracked_iff : status.errorCondition? = none ↔ ∀ condition ∈ status.listed, condition.isTracked = false := by
  simp [errorCondition?]

theorem record_of_silent (untracked : status.errorCondition? = none) (silent : report.status ≠ .isTrue) :
    status.record report = (false, status) := by
  have nothing := report.update.applyTo?_of_untracked report.now (untracked_iff.mp untracked)
  rw [if_neg silent] at nothing
  simp only [record, update?, nothing, Option.map_none]

theorem record_of_first (untracked : status.errorCondition? = none) (first : report.status = .isTrue) :
    status.record report =
      (true, { status with conditions := some (status.listed ++ [report.update.entry report.now]) }) := by
  have appended := report.update.applyTo?_of_untracked report.now (untracked_iff.mp untracked)
  rw [if_pos first] at appended
  simp only [record, update?, appended, Option.map_some]

theorem recordAll_of_silent (untracked : status.errorCondition? = none) {reports : List Report}
    (silent : ∀ report ∈ reports, report.status ≠ .isTrue) :
    status.recordAll reports = (reports.map fun _ => false, status) := by
  induction reports with
  | nil => rfl
  | cons report rest ih =>
    have rest_silent := ih fun other member => silent other (List.mem_cons_of_mem _ member)
    simp only [recordAll, record_of_silent untracked (silent report List.mem_cons_self), rest_silent, List.map_cons]

theorem recordAll_append (status : ClaimStatus) (first second : List Report) :
    status.recordAll (first ++ second) =
      ((status.recordAll first).1 ++ ((status.recordAll first).2.recordAll second).1,
        ((status.recordAll first).2.recordAll second).2) := by
  induction first generalizing status with
  | nil => rfl
  | cons report rest ih => simp only [List.cons_append, recordAll, ih]

/-- From the moment at which the entry is there, every report is written, and only the entry changes. -/
theorem recordAll_of_tracked (phase : Option ClaimPhase) {before after : List Condition} {entry : Condition}
    (untracked : ∀ condition ∈ before, condition.isTracked = false) (tracked : entry.isTracked = true)
    (reports : List Report) :
    recordAll reports ⟨phase, some (before ++ entry :: after)⟩ =
      (reports.map fun _ => true, ⟨phase, some (before ++ entry.revised reports :: after)⟩) := by
  induction reports generalizing entry with
  | nil => rfl
  | cons report rest ih =>
    have revised : (report.update.revise report.now entry).isTracked = true := tracked
    have written : record ⟨phase, some (before ++ entry :: after)⟩ report =
        (true, ⟨phase, some (before ++ report.update.revise report.now entry :: after)⟩) := by
      simp only [record, update?, Option.getD_some,
        report.update.applyTo?_of_tracked report.now untracked tracked, Option.map_some]
    simp only [recordAll, written, ih revised, List.map_cons]
    rfl

theorem recordAll_of_first (untracked : status.errorCondition? = none) {before : List Report} {first : Report}
    (silent : ∀ report ∈ before, report.status ≠ .isTrue) (true_first : first.status = .isTrue) (more : List Report) :
    status.recordAll (before ++ first :: more) =
      ((before.map fun _ => false) ++ (first :: more).map fun _ => true,
        { status with
          conditions := some (status.listed ++ [(first.update.entry first.now).revised more]) }) := by
  have entered : (first.update.entry first.now).isTracked = true := rfl
  have later : recordAll more ⟨status.phase, some (status.listed ++ [first.update.entry first.now])⟩ = _ :=
    recordAll_of_tracked status.phase (untracked_iff.mp untracked) entered more
  rw [recordAll_append, recordAll_of_silent untracked silent]
  simp only [recordAll, record_of_first untracked true_first, later, List.map_cons]

theorem conditions_of_tracked {original : Condition} (found : status.errorCondition? = some original) :
    original.isTracked = true ∧ ∃ before after, status.conditions = some (before ++ original :: after) ∧
      ∀ condition ∈ before, condition.isTracked = false := by
  obtain ⟨tracked, before, after, split, untracked⟩ := List.find?_eq_some_iff_append.mp found
  refine ⟨tracked, before, after, ?_, by simpa using untracked⟩
  cases conditions : status.conditions with
  | none => simp [conditions] at split
  | some list =>
    rw [conditions, Option.getD_some] at split
    rw [split]

theorem trackedCount_recordAll_of_tracked {original : Condition} (found : status.errorCondition? = some original)
    (reports : List Report) : (status.recordAll reports).2.trackedCount = max 1 status.trackedCount := by
  obtain ⟨tracked, before, after, initialised, untracked⟩ := conditions_of_tracked found
  obtain ⟨phase, conditions⟩ := status
  cases initialised
  have kept : (original.revised reports).isTracked = true := (Condition.sums_revised tracked reports).tracked
  rw [recordAll_of_tracked phase untracked tracked]
  simp only [trackedCount, listed, Option.getD_some, List.countP_append, List.countP_cons_of_pos tracked,
    List.countP_cons_of_pos kept]
  omega

theorem trackedCount_recordAll_of_first (untracked : status.errorCondition? = none) {before : List Report}
    {first : Report} (silent : ∀ report ∈ before, report.status ≠ .isTrue) (true_first : first.status = .isTrue)
    (more : List Report) : (status.recordAll (before ++ first :: more)).2.trackedCount = max 1 status.trackedCount := by
  have entered := (Condition.sums_entry first more).tracked
  have none_before : status.listed.countP Condition.isTracked = 0 :=
    List.countP_eq_zero.mpr fun condition member => by simp [untracked_iff.mp untracked condition member]
  rw [recordAll_of_first untracked silent true_first]
  simp only [trackedCount, listed, Option.getD_some, List.countP_append, List.countP_cons_of_pos entered,
    List.countP_nil] at none_before ⊢
  omega

theorem exists_first {reports : List Report} (reported : ∃ report ∈ reports, report.status = .isTrue) :
    ∃ before first more, reports = before ++ first :: more ∧ (∀ report ∈ before, report.status ≠ .isTrue) ∧
      first.status = .isTrue := by
  have somewhere : (reports.find? (·.status = .isTrue)).isSome = true := by simpa using reported
  obtain ⟨first, hit⟩ := Option.isSome_iff_exists.mp somewhere
  obtain ⟨true_first, before, more, rfl, silent⟩ := List.find?_eq_some_iff_append.mp hit
  exact ⟨before, first, more, rfl, by simpa using silent, by simpa using true_first⟩

/-- The law of the error condition over a whole history: silent until the first true report, one entry from then
on, and since when that entry has had its status read off the reports alone. -/
theorem chronicle (status : ClaimStatus) (reports : List Report) : status.Chronicle reports where
  silent untracked := recordAll_of_silent untracked
  appended before first more split untracked silent true_first :=
    ⟨_, Condition.sums_entry first more, split ▸ recordAll_of_first untracked silent true_first more⟩
  rewritten before original after initialised untracked tracked := by
    obtain ⟨phase, conditions⟩ := status
    cases initialised
    exact ⟨_, Condition.sums_revised tracked reports, recordAll_of_tracked phase untracked tracked reports⟩
  counted recorded := by
    cases found : status.errorCondition? with
    | some original => exact trackedCount_recordAll_of_tracked found reports
    | none =>
      have reported := recorded.resolve_left (absurd found)
      obtain ⟨before, first, more, rfl, silent, true_first⟩ := exists_first reported
      exact trackedCount_recordAll_of_first found silent true_first more

example :
    let newYear (date : Time.Date) : Timestamp := { Timestamp.epoch with date := date }
    let turned := newYear { year := 1971, month := 1, day := 1 }
    let repeated := newYear { year := 1972, month := 1, day := 1 }
    let reports : List Report :=
      [⟨⟨.isFalse, "", ""⟩, .epoch⟩, ⟨⟨.isTrue, "", ""⟩, .epoch⟩, ⟨⟨.unknown, "", ""⟩, turned⟩,
        ⟨⟨.unknown, "", ""⟩, repeated⟩]
    let (answers, status) := recordAll reports {}
    answers = [false, true, true, true] ∧ status.listed.map Condition.transitionTime = [turned] := by decide

end ClaimStatus

end ClaimOperator

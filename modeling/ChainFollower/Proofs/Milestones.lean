import ChainFollower.Progress.Course
import Mathlib.Data.List.Chain
import Mathlib.Data.List.ReduceOption

/-!
A tracker over any course of calls. Where it stands depends on the heights alone that were reported;
a line is due when one is forced, or when enough heights lie behind the last line. The difference of
two heights is held within their range, but never where that could change what is due.
-/

namespace ChainFollower

def TrackerCall.height? : TrackerCall → Option Height
  | record height => some height
  | log _ => none

def TrackerCall.heights (calls : List TrackerCall) : List Height :=
  calls.filterMap height?

@[simp] theorem TrackerCall.heights_record (calls : List TrackerCall) (height : Height) :
    heights (calls ++ [record height]) = heights calls ++ [height] := by
  simp [heights, height?]

@[simp] theorem TrackerCall.heights_log (calls : List TrackerCall) (force : Bool) :
    heights (calls ++ [log force]) = heights calls := by
  simp [heights, height?]

/-- A line that was written: the height it shows, and whether somebody asked for it at all events. -/
structure Milestone where
  height : Height
  forced : Bool

def Milestone.Climbs (last next : Milestone) : Prop :=
  last.height ≤ next.height ∧ (next.forced = false → 1000 ≤ next.height.toInt - last.height.toInt)

def milestone? : TrackerCall → Tracker × Option LogRecord → Option Milestone
  | .log force, (_, some (.rescanProgress tracker)) => some ⟨tracker.scanned, force⟩
  | _, _ => none

def milestones (start : Height) (calls : List TrackerCall) : List Milestone :=
  (List.zipWith milestone? calls ((Tracker.new start).course calls)).reduceOption

def lastMark (start : Height) (calls : List TrackerCall) : Height :=
  ((milestones start calls).getLast?.map Milestone.height).getD start

namespace Tracker

def after (tracker : Tracker) (calls : List TrackerCall) : Tracker :=
  calls.foldl (fun tracker call => (tracker.call call).1) tracker

theorem after_concat (tracker : Tracker) (calls : List TrackerCall) (call : TrackerCall) :
    tracker.after (calls ++ [call]) = ((tracker.after calls).call call).1 := by
  simp [after]

@[simp] theorem call_record (tracker : Tracker) (height : Height) :
    tracker.call (.record height) = (tracker.record height, none) := rfl

@[simp] theorem call_log_of_due {tracker : Tracker} {force : Bool}
    (due : tracker.isDue force = true) : tracker.call (.log force) =
      ({ tracker with logged := tracker.scanned }, some (.rescanProgress tracker)) := by
  simp [call, log, due]

@[simp] theorem call_log_of_not_due {tracker : Tracker} {force : Bool}
    (quiet : tracker.isDue force = false) : tracker.call (.log force) = (tracker, none) := by
  simp [call, log, quiet]

theorem length_course (tracker : Tracker) (calls : List TrackerCall) :
    (tracker.course calls).length = calls.length := by
  induction calls generalizing tracker with
  | nil => rfl
  | cons call calls ih => simp [course, ih]

theorem course_append (tracker : Tracker) (calls more : List TrackerCall) :
    tracker.course (calls ++ more) =
      tracker.course calls ++ (tracker.after calls).course more := by
  induction calls generalizing tracker with
  | nil => rfl
  | cons call calls ih => simp [course, after, ih]

theorem course_getElem? (tracker : Tracker) (before : List TrackerCall) (call : TrackerCall)
    (later : List TrackerCall) :
    (tracker.course (before ++ call :: later))[before.length]? =
      some ((tracker.after before).call call) := by
  rw [course_append, ← length_course tracker before, List.getElem?_append_right (Nat.le_refl _)]
  simp [course]

theorem milestones_concat (start : Height) (calls : List TrackerCall) (call : TrackerCall) :
    milestones start (calls ++ [call]) = milestones start calls ++
      (milestone? call (((new start).after calls).call call)).toList := by
  have long := length_course (new start) calls
  rw [milestones, course_append, List.zipWith_append long.symm, List.reduceOption_append]
  cases line : milestone? call (((new start).after calls).call call) <;>
    simp [milestones, course, line, List.reduceOption]

/-- Holding a difference within the range of heights does not change whether it is a full interval. -/
theorem logInterval_le_distance (a b : Height) :
    logInterval ≤ distance a b ↔ logInterval ≤ a.toInt - b.toInt := by
  simp only [distance, logInterval]
  omega

theorem isDue_iff (tracker : Tracker) (force : Bool) :
    tracker.isDue force = true ↔ tracker.hasProgress = true ∧
      (force = true ∨ logInterval ≤ tracker.scanned.toInt - tracker.logged.toInt) := by
  simp only [isDue, Bool.and_eq_true, Bool.or_eq_true, decide_eq_true_eq, logInterval_le_distance]
  exact and_comm

structure Stands (start : Height) (heights : List Height) (tracker : Tracker) : Prop where
  begun : tracker.start = start
  mem : tracker.scanned ∈ start :: heights
  greatest : ∀ height ∈ start :: heights, height ≤ tracker.scanned
  reports : tracker.reports = heights.length
  hasProgress : tracker.hasProgress = true ↔ heights ≠ []

theorem stands_new (start : Height) : (new start).Stands start [] := by
  constructor <;> simp [new]

theorem Stands.record {start : Height} {heights : List Height} {tracker : Tracker}
    (stands : tracker.Stands start heights) (height : Height) :
    (tracker.record height).Stands start (heights ++ [height]) := by
  have scanned : (tracker.record height).scanned =
      if tracker.scanned ≤ height then height else tracker.scanned := rfl
  obtain ⟨begun, mem, greatest, reports, -⟩ := stands
  constructor
  · exact begun
  · rw [scanned, ← List.cons_append]
    split
    · simp
    · exact List.mem_append_left _ mem
  · intro other among
    rw [← List.cons_append, List.mem_append, List.mem_singleton] at among
    rw [scanned]
    simp only [Int32.le_iff_toInt_le] at greatest ⊢
    rcases among with earlier | rfl
    · have least := greatest other earlier
      split <;> omega
    · split <;> omega
  · simp [Tracker.record, reports]
  · simp [Tracker.record]

theorem Stands.call {start : Height} {calls : List TrackerCall} {tracker : Tracker}
    (stands : tracker.Stands start (TrackerCall.heights calls)) (call : TrackerCall) :
    (tracker.call call).1.Stands start (TrackerCall.heights (calls ++ [call])) := by
  cases call with
  | record height => simpa using stands.record height
  | log force =>
    rw [TrackerCall.heights_log]
    cases due : tracker.isDue force with
    | false => simpa [due] using stands
    | true =>
      rw [call_log_of_due due]
      exact ⟨stands.begun, stands.mem, stands.greatest, stands.reports, stands.hasProgress⟩

theorem Stands.text {start : Height} {heights : List Height} {tracker : Tracker}
    (stands : tracker.Stands start heights) : (LogRecord.rescanProgress tracker).text =
      "Rescan progress: scanned through height " ++ toString tracker.scanned.toInt ++ " (" ++
        toString heights.length ++ " reports since height " ++ toString start.toInt ++ ")" := by
  rw [← stands.reports, ← stands.begun]
  rfl

theorem stands_after (start : Height) (calls : List TrackerCall) :
    ((new start).after calls).Stands start (TrackerCall.heights calls) := by
  induction calls using List.reverseRecOn with
  | nil => exact stands_new start
  | append_singleton calls call ih =>
    rw [after_concat]
    exact ih.call call

/-- The mark is where the last line was written. -/
theorem logged_after (start : Height) (calls : List TrackerCall) :
    ((new start).after calls).logged = lastMark start calls := by
  induction calls using List.reverseRecOn with
  | nil => rfl
  | append_singleton calls call ih =>
    rw [after_concat, lastMark, milestones_concat]
    cases call with
    | record height => simpa [Tracker.record, milestone?, lastMark] using ih
    | log force =>
      cases due : ((new start).after calls).isDue force with
      | false => simpa [due, milestone?, lastMark] using ih
      | true => simp [due, milestone?]

structure Answers (start : Height) (before : List TrackerCall) (call : TrackerCall)
    (answer : Tracker × Option LogRecord) : Prop where
  stands : answer.1.Stands start (TrackerCall.heights (before ++ [call]))
  /-- A line comes exactly if there was a report, and it is forced or an exact interval is full. -/
  written : answer.2.isSome = true ↔ ∃ force, call = .log force ∧ TrackerCall.heights before ≠ [] ∧
    (force = true ∨ 1000 ≤ answer.1.scanned.toInt - (lastMark start before).toInt)
  shown : ∀ record ∈ answer.2, record.text =
    "Rescan progress: scanned through height " ++ toString answer.1.scanned.toInt ++ " (" ++
      toString (TrackerCall.heights before).length ++ " reports since height " ++
      toString start.toInt ++ ")"

theorem answers_after (start : Height) (before : List TrackerCall) (call : TrackerCall) :
    Answers start before call (((new start).after before).call call) := by
  have stands := stands_after start before
  refine ⟨stands.call call, ?_, ?_⟩
  · cases call with
    | record height => simp
    | log force =>
      have due := isDue_iff ((new start).after before) force
      rw [stands.hasProgress, logged_after, logInterval] at due
      cases answer : ((new start).after before).isDue force with
      | false => simpa [answer] using due
      | true => simpa [answer] using due
  · intro record among
    cases call with
    | record height => cases among
    | log force =>
      have due : ((new start).after before).isDue force = true := by
        by_contra quiet
        rw [call_log_of_not_due (Bool.eq_false_iff.mpr quiet)] at among
        cases among
      rw [call_log_of_due due] at among
      cases among
      rw [stands.text, call_log_of_due due]

/-- No mark lies above what was scanned, as every mark was what was scanned once. -/
theorem lastMark_le (start : Height) (calls : List TrackerCall) :
    lastMark start calls ≤ ((new start).after calls).scanned := by
  induction calls using List.reverseRecOn with
  | nil => exact Int32.le_refl _
  | append_singleton calls call ih =>
    rw [← logged_after] at ih ⊢
    rw [after_concat]
    cases call with
    | record height =>
      simp only [call_record, record]
      split
      · exact Int32.le_trans ih ‹_›
      · exact ih
    | log force =>
      cases due : ((new start).after calls).isDue force with
      | false => simpa [due] using ih
      | true => simp [due]

theorem climbs_of_due {start : Height} {calls : List TrackerCall} {force : Bool} {last : Milestone}
    (standing : last.height = lastMark start calls)
    (due : ((new start).after calls).isDue force = true) :
    last.Climbs ⟨((new start).after calls).scanned, force⟩ := by
  obtain ⟨-, full⟩ := (isDue_iff _ _).mp due
  rw [logged_after, logInterval] at full
  constructor
  · simpa [standing] using lastMark_le start calls
  · intro unforced
    simp_all

theorem milestones_climb (start : Height) (calls : List TrackerCall) :
    (⟨start, true⟩ :: milestones start calls).IsChain Milestone.Climbs := by
  induction calls using List.reverseRecOn with
  | nil => exact .singleton _
  | append_singleton calls call ih =>
    rw [milestones_concat]
    cases call with
    | record height => simpa [milestone?] using ih
    | log force =>
      cases due : ((new start).after calls).isDue force with
      | false => simpa [due, milestone?] using ih
      | true =>
        simp only [call_log_of_due due, milestone?, Option.toList_some]
        rw [← List.cons_append, List.isChain_append]
        refine ⟨ih, .singleton _, ?_⟩
        intro last isLast next isNext
        cases isNext
        apply climbs_of_due _ due
        rw [List.getLast?_cons] at isLast
        cases isLast
        rw [lastMark]
        cases (milestones start calls).getLast? <;> rfl

/-- A tracker stands at the greatest height of its course, counts the reports, and writes a line when
one is forced or a full interval lies behind the last one, but never without a report. Its lines show
where it stands, never go down, and climb a full interval where they are not forced. -/
theorem course_laws (start : Height) (calls : List TrackerCall) :
    (∀ before call later, calls = before ++ call :: later →
      ∃ answer, ((new start).course calls)[before.length]? = some answer ∧
        Answers start before call answer) ∧
    (⟨start, true⟩ :: milestones start calls).IsChain Milestone.Climbs := by
  constructor
  · rintro before call later rfl
    exact ⟨_, course_getElem? (new start) before call later, answers_after start before call⟩
  · exact milestones_climb start calls

/-- These two heights are further apart than any height is from zero, and a line is written. -/
theorem course_laws_extreme :
    let calls := [.record 2147483647, .log false]
    ∃ answer, ((new (-2147483648)).course calls)[1]? = some answer ∧ answer.2.isSome = true := by
  intro calls
  obtain ⟨answers, -⟩ := course_laws (-2147483648) calls
  obtain ⟨answer, here, answered⟩ := answers [.record 2147483647] (.log false) [] rfl
  have scanned : answer.1.scanned = 2147483647 := by
    cases here
    rfl
  refine ⟨answer, here, answered.written.mpr ⟨false, rfl, by decide, .inr ?_⟩⟩
  rw [scanned]
  decide

end Tracker

end ChainFollower

import ChainFollower.Proofs.Bookkeeping
import ChainFollower.Proofs.Cancelling
import ChainFollower.Proofs.Watch

/-! The wallet's scans against the rescans that they are made for. A rescan ends when its reader
does, so that a scan can go on behind it; only one that sent an error does. -/
namespace ChainFollower

namespace Follower

def Failed (f : Follower) (job : RescanJob) : Prop :=
  ∃ scanned e, rescanOutcomes job.number f.history = [.failed scanned e]

/-- Whatever goes on without a reader belongs to a rescan that failed, and is told to stop. -/
def Orphaned (f : Follower) : Prop :=
  ∀ job ∈ f.rescans, job.reading = false →
    f.Failed job ∧ f.isCancelled (.rescan job.attempt) = true

theorem Failed.congr {f g : Follower} {job after : RescanJob} (failed : f.Failed job)
    (number : after.number = job.number)
    (same : rescanOutcomes job.number g.history = rescanOutcomes job.number f.history) :
    g.Failed after := by
  obtain ⟨scanned, e, ended⟩ := failed
  exact ⟨scanned, e, by rw [number, same, ended]⟩

namespace Orphaned

variable {f g : Follower}

/-- Jobs without a reader were there before, and what was known of them still holds. -/
theorem of_kept (orphaned : f.Orphaned)
    (old : ∀ job ∈ g.rescans, job.reading = false → ∃ before ∈ f.rescans,
      before.reading = false ∧ job.number = before.number ∧ job.attempt = before.attempt)
    (outcomes : ∀ job ∈ f.rescans, job.reading = false →
      rescanOutcomes job.number g.history = rescanOutcomes job.number f.history)
    (cancelled : ∀ token, f.isCancelled token = true → g.isCancelled token = true) :
    g.Orphaned := by
  intro job member unread
  obtain ⟨before, inside, unread', number, attempt⟩ := old job member unread
  obtain ⟨failed, stopped⟩ := orphaned before inside unread'
  exact ⟨failed.congr number (outcomes before inside unread'), attempt ▸ cancelled _ stopped⟩

/-- Had the scan returned, its job would be gone with the reader; so the reader took out an error. -/
theorem ended {told : Follower} {job : RescanJob} {outcome : RescanOutcome} {event : Event}
    (orphaned : f.Orphaned) (still : SameScans f told) (closes : Closes f job outcome event)
    (fresh : rescanOutcomes job.number f.history = [])
    (history : g.history = .rescanEnded job.number outcome :: told.history)
    (rescans : ∃ tracker, g.rescans = replaced told.rescans job.number
      { job with channel := [], reading := false, tracker := tracker })
    (cancelled : ∀ token, f.isCancelled token = true → g.isCancelled token = true)
    (failed : ∀ e rest, job.channel = .failure e :: rest →
      g.isCancelled (.rescan job.attempt) = true) : g.Orphaned := by
  intro other inside unread
  obtain ⟨tracker, same⟩ := rescans
  rw [same] at inside
  rcases mem_replaced inside with ⟨before, elsewhere⟩ | rfl
  · obtain ⟨failed, stopped⟩ := orphaned other (still.rescans ▸ before) unread
    refine ⟨failed.congr rfl ?_, cancelled _ stopped⟩
    rw [history, rescanOutcomes_ended, if_neg elsewhere.symm, still.outcomes]
  · have goesOn : job.producer ≠ .ended := by
      intro returned
      unfold replaced at inside
      rw [if_pos ⟨returned, rfl⟩] at inside
      simpa using (List.mem_filter.mp inside).2
    cases closes with
    | @failed e rest channel =>
      refine ⟨⟨job.tracker.scanned, e, ?_⟩, failed e rest channel⟩
      rw [history, rescanOutcomes_ended, if_pos rfl, still.outcomes, fresh]
    | canceled channel returned => exact absurd returned goesOn
    | finished channel returned => exact absurd returned goesOn

end Orphaned

end Follower

namespace Course

open Follower

variable {c : Course} {move : Move} {g : Follower}

theorem Reached.orphaned_move (reached : c.Reached) (orphaned : c.follower.Orphaned)
    (made : c.follower.move? move = some g) : g.Orphaned := by
  have accounted := reached.accounted
  have cancelled (token : Token) (before : c.follower.isCancelled token = true) :
      g.isCancelled token = true :=
    (Stage.isCancelled_move reached.sound accounted reached.owned made token).mpr (Or.inl before)
  have kept (rescans : g.rescans = c.follower.rescans)
      (outcomes : ∀ number, rescanOutcomes number g.history =
        rescanOutcomes number c.follower.history) : g.Orphaned :=
    orphaned.of_kept (fun job member unread => ⟨job, rescans ▸ member, unread, rfl, rfl⟩)
      (fun job _ _ => outcomes job.number) cancelled
  cases accounted.rescanMoved made with
  | spared other unscanned => exact kept unscanned.rescans unscanned.outcomes
  | called call =>
    cases call with
    | barred bars => exact orphaned
    | unmade free text => exact kept rfl fun _ => rfl
    | started free =>
      refine orphaned.of_kept (fun job member unread => ?_) (fun _ _ _ => rfl) cancelled
      rcases List.mem_append.mp member with before | new
      · exact ⟨job, before, unread, rfl, rfl⟩
      · rw [List.mem_singleton.mp new] at unread
        contradiction
  | fed items ending change same =>
    refine orphaned.of_kept (fun job member unread => ?_) (fun _ _ _ => rfl) cancelled
    obtain ⟨before, inside, rfl⟩ := List.mem_map.mp member
    obtain ⟨producer, changed, _⟩ := same before
    rw [changed] at unread ⊢
    exact ⟨before, inside, unread, rfl, rfl⟩
  | scripted script => exact kept rfl fun _ => rfl
  | @produced job after e member stepped =>
    obtain ⟨untold, _, produces⟩ := produces_produce stepped
    have same : after.number = job.number ∧ after.attempt = job.attempt ∧
        after.reading = job.reading := by
      cases produces <;> exact ⟨rfl, rfl, rfl⟩
    refine orphaned.of_kept (fun other inside unread => ?_)
      (fun other _ _ => untold.outcomes other.number) cancelled
    rcases mem_replaced inside with ⟨before, _⟩ | rfl
    · exact ⟨other, untold.rescans ▸ before, unread, rfl, rfl⟩
    · exact ⟨job, member, same.2.2.symm.trans unread, same.1, same.2.1⟩
  | @consumed job after e member reading consumes =>
    cases consumes with
    | took channel scanned still tells =>
      refine orphaned.of_kept (fun other inside unread => ?_)
        (fun other _ _ => still.outcomes other.number) cancelled
      rcases mem_replaced inside with ⟨before, _⟩ | rfl
      · exact ⟨other, still.rescans ▸ before, unread, rfl, rfl⟩
      · rw [reading] at unread
        contradiction
    | @ended outcome event tracker told closes still tells =>
      refine orphaned.ended still closes (accounted.goesOn job member reading) rfl ⟨tracker, rfl⟩
        cancelled fun e rest channel => ?_
      exact (Stage.isCancelled_move reached.sound accounted reached.owned made _).mpr
        (Or.inr (Or.inr (Or.inr (.failed member reading channel))))

/-- In whatever order scans and readers go on and end, scans without readers have failed. -/
theorem Reached.orphaned (reached : c.Reached) : c.follower.Orphaned := by
  obtain ⟨first, initial, ran⟩ := reached
  induction ran with
  | start =>
    intro job member
    rw [initial.fresh.rescans] at member
    contradiction
  | move before made may ih =>
    exact Reached.orphaned_move ⟨first, initial, before⟩ ih made

theorem startRescan_admitted {f : Follower} {link : Link} (free : f.rescanLink = .ok link)
    (room : f.channelCapacity ≤ maxCapacity) : ∃ job : RescanJob, job.producer = .ready ∧
      f.startRescan.2 = .started job.number ∧ f.startRescan.1.rescans = f.rescans ++ [job] := by
  have fits : ¬ ((f.occupyRescan (f.counts.rescanAttempts + 1)).log
      (.rescanStarting link.name)).channelCapacity > maxCapacity := Nat.not_lt.mpr room
  refine ⟨⟨f.counts.rescans + 1, f.counts.rescanAttempts + 1, link, .ready, [], Tracker.new 0, true⟩,
    rfl, ?_, ?_⟩
  · simp only [startRescan, free, if_neg fits]
    rfl
  · simp only [startRescan, free, if_neg fits]
    rfl

/-- How the scans under way stand to each other and to the next start. -/
structure Apart (f : Follower) : Prop where
  /-- What goes on without a reader failed before, and is told to stop. -/
  unread : ∀ job ∈ f.rescans, job.reading = false →
    f.Failed job ∧ f.isCancelled (.rescan job.attempt) = true
  single : ∀ job ∈ f.rescans, ∀ other ∈ f.rescans, ¬ f.Failed job → ¬ f.Failed other → job = other
  bars : f.loader.loaded = true → f.wallet.link.isSome = true →
    ∀ job ∈ f.rescans, ¬ f.Failed job → f.startRescan.2 = .stopped (.failed .rescanInProgress)
  /-- Where all have failed the next scan begins beside them. -/
  admits : f.loader.loaded = true → f.wallet.link.isSome = true → f.channelCapacity ≤ maxCapacity →
    (∀ job ∈ f.rescans, f.Failed job) → ∃ job, job.producer = .ready ∧
      f.startRescan.2 = .started job.number ∧ f.startRescan.1.rescans = f.rescans ++ [job]

/-- At most one scan is under way, but for those that sent an error: their rescans have ended. Any
other bars the next start, and those do not. -/
theorem scans_apart (reached : c.Reached) : Apart c.follower := by
  have accounted := reached.accounted
  have orphaned := reached.orphaned
  have read {job : RescanJob} (member : job ∈ c.follower.rescans)
      (goesOn : ¬ c.follower.Failed job) : job.reading = true := by
    cases reading : job.reading with
    | true => rfl
    | false => exact absurd (orphaned job member reading).1 goesOn
  constructor
  · exact orphaned
  · intro job member other inside goesOn goesOn'
    have live := (accounted.held member (read member goesOn)).2
    have alive := (accounted.held inside (read inside goesOn')).2
    have same : job.attempt = other.attempt := by simpa [live] using alive
    exact List.inj_on_of_nodup_map accounted.jobs.attempts member inside same
  · intro loaded linked job member goesOn
    rw [startRescan_in_progress_iff loaded linked, accounted.reader_iff]
    exact ⟨job, member, read member goesOn⟩
  · intro loaded linked room failed
    have idle : c.follower.rescanSlot.running = false := by
      rw [Bool.eq_false_iff]
      intro running
      obtain ⟨job, member, reading⟩ := accounted.reader_iff.mp running
      obtain ⟨scanned, e, ended⟩ := failed job member
      rw [accounted.goesOn job member reading] at ended
      contradiction
    obtain ⟨link, held⟩ := Option.isSome_iff_exists.mp linked
    have free : c.follower.rescanLink = .ok link := by simp [rescanLink, loaded, held, idle]
    exact startRescan_admitted free room

def scanning (number : Nat) (items : List RescanItem) (reading : Bool) : RescanJob :=
  ⟨number, number, .foreign "node", .scanning ⟨items, .wait, true⟩ none, [], Tracker.new 0, reading⟩

/-- The scan sends an error and goes on; the reader takes the error out, and the next scan begins. -/
theorem failed_scan_goes_on :
    ∃ c d : Course, c.Reached ∧ c.follower.rescans = [scanning 1 [] false] ∧
      rescanOutcomes 1 c.follower.history = [.failed 0 .locked] ∧
      c.follower.startRescan.2 = .started 2 ∧ c.after? [.step .startRescan, .produce 2] = some d ∧
      d.follower.rescans = [scanning 1 [] false, scanning 2 [.failure .locked] true] ∧
      rescanOutcomes 2 d.follower.history = [] ∧
      d.follower.loader.loaded = true ∧ d.follower.wallet.link.isSome = true := by
  have taken : (ready ⟨[.failure .locked], .wait, true⟩).after?
    [.step .startRescan, .produce 1, .produce 1, .produce 1, .consume 1] = some _ := rfl
  exact ⟨_, _, (ready_reached _).later taken, rfl, rfl, rfl, rfl,
    by decide +kernel, by decide +kernel, by decide +kernel, by decide +kernel⟩

/-- The first has failed and does not bar the second, which bars a third. -/
theorem scans_apart_beside_failed : ∃ c d : Course, c.Reached ∧ Apart c.follower ∧ Apart d.follower ∧
    c.follower.Failed (scanning 1 [] false) ∧ c.follower.startRescan.2 = .started 2 ∧
    ¬ d.follower.Failed (scanning 2 [.failure .locked] true) ∧
    d.follower.startRescan.2 = .stopped (.failed .rescanInProgress) := by
  obtain ⟨c, d, reached, _, failed, admitted, later, both, goesOn, loaded, linked⟩ := failed_scan_goes_on
  have unfailed : ¬ d.follower.Failed (scanning 2 [.failure .locked] true) := by
    rintro ⟨scanned, e, ended⟩
    exact absurd (goesOn.symm.trans ended) (by simp)
  have apart := scans_apart (reached.later later)
  have member : scanning 2 [.failure .locked] true ∈ d.follower.rescans := by simp [both]
  exact ⟨c, d, reached, scans_apart reached, apart, ⟨0, .locked, failed⟩, admitted, unfailed,
    apart.bars loaded linked _ member unfailed⟩

/-- A scan is begun that is not barred while the one before goes on, so that the wallet has two. -/
theorem two_scans_under_way : ∃ c d : Course, c.Reached ∧ c.follower.rescans = [scanning 1 [] false] ∧
    c.follower.startRescan.2 = .started 2 ∧ c.after? [.step .startRescan, .produce 2] = some d ∧
    d.follower.rescans = [scanning 1 [] false, scanning 2 [.failure .locked] true] := by
  obtain ⟨c, d, reached, one, _, admitted, later, both, _⟩ := failed_scan_goes_on
  exact ⟨c, d, reached, one, admitted, later, both⟩

end Course

end ChainFollower

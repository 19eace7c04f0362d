import ChainFollower.Proofs.Elsewhere

/-! What the steps of a rescan do: the wallet's side changes nothing but its job, and the reader tells
everybody one event for each report that it takes out, and one when it ends. -/
namespace ChainFollower

/-- The events that the listener at a position heard, the last one first, apart from what it hears
when a listener cancels the sync. -/
def toldTo (position : Nat) (history : List Happening) : List Event :=
  (heardBy position history).filter (fun event => event ≠ .synced false)

namespace Follower

def Tells (event : Event) (f g : Follower) : Prop :=
  ∀ position, f.hears position = true →
    toldTo position g.history = event :: toldTo position f.history

theorem Tells.broadcast (f : Follower) (event : Event) (own : event ≠ .synced false) :
    Tells event f (f.broadcast event) := by
  intro position hears
  let keep : Event → Bool := fun event => event ≠ .synced false
  have heard := @heardBy_broadcast keep (by simp [keep]) event f position
  have kept : [event].filter keep = [event] := by simp [keep, own]
  rw [if_pos hears, kept] at heard
  exact heard

inductive Produces (job : RescanJob) : RescanJob → Prop where
  | turned (producer : Producer) : Produces job { job with producer := producer }
  | sent (producer : Producer) (report : Report) (reading : job.reading = true)
      (goesOn : producer ≠ .ended) :
    Produces job { job with producer := producer, channel := job.channel ++ [report] }

structure Untold (f g : Follower) : Prop extends SameScans f g where
  told : ∀ position, toldTo position g.history = toldTo position f.history

theorem Untold.refl (f : Follower) : Untold f f := ⟨SameScans.refl f, fun _ => rfl⟩

theorem produces_produce {f g : Follower} {job after : RescanJob}
    (stepped : f.produce job = some (g, after)) :
    Untold f g ∧ job.producer ≠ .ended ∧ Produces job after := by
  have called : Untold f { f.saw (.rescan job.link) with lastRescan := some job.number } :=
    ⟨(SameScans.note f id).trans (SameScans.of_same rfl fun _ => id), fun _ => rfl⟩
  unfold produce at stepped
  dsimp only at stepped
  split at stepped
  · contradiction
  · rename_i ready
    obtain ⟨rfl, rfl⟩ := Prod.mk.inj (Option.some.inj stepped)
    exact ⟨called, by simp [ready], .turned _⟩
  · rename_i script report waits
    refine ⟨?_, by simp [waits], ?_⟩
    · repeat' split at stepped
      all_goals first
        | contradiction
        | exact (Prod.mk.inj (Option.some.inj stepped)).1 ▸ Untold.refl f
    · split at stepped
      · obtain ⟨-, rfl⟩ := Prod.mk.inj (Option.some.inj stepped)
        exact .turned _
      · rename_i reading
        split at stepped
        · obtain ⟨-, rfl⟩ := Prod.mk.inj (Option.some.inj stepped)
          exact .sent _ report (by simpa using reading) nofun
        · contradiction
  · rename_i script scanning
    refine ⟨?_, by simp [scanning], ?_⟩
    · repeat' split at stepped
      all_goals first
        | contradiction
        | exact (Prod.mk.inj (Option.some.inj stepped)).1 ▸ Untold.refl f
    · repeat' split at stepped
      all_goals first
        | contradiction
        | exact (Prod.mk.inj (Option.some.inj stepped)).2 ▸ .turned _

inductive Closes (f : Follower) (job : RescanJob) : RescanOutcome → Event → Prop where
  | failed {e : WalletError} {rest : List Report} (channel : job.channel = .failure e :: rest) :
    Closes f job (.failed job.tracker.scanned e) (.syncError .rescanFailed (.wallet e))
  | canceled (channel : job.channel = []) (ended : job.producer = .ended)
      (cancelled : f.isCancelled (.rescan job.attempt) = true) :
    Closes f job (.canceled job.tracker.scanned) (.rescan job.tracker.scanned .progress)
  | finished (channel : job.channel = []) (ended : job.producer = .ended)
      (goesOn : f.isCancelled (.rescan job.attempt) = false) :
    Closes f job (.finished job.tracker.scanned) (.rescan job.tracker.scanned .finish)

inductive Consumes (f : Follower) (job : RescanJob) : Follower → RescanJob → Prop where
  | took {h : Height} {rest : List Report} {tracker : Tracker} {g : Follower}
      (channel : job.channel = .height h :: rest)
      (scanned : tracker.scanned = max job.tracker.scanned h) (unscanned : SameScans f g)
      (tells : Tells (.rescan h .progress) f g) :
    Consumes f job g { job with channel := rest, tracker := tracker }
  | ended {outcome : RescanOutcome} {event : Event} {tracker : Tracker} {g : Follower}
      (closes : Closes f job outcome event) (unscanned : SameScans f g) (tells : Tells event f g) :
    Consumes f job (g.releaseRescan.note (.rescanEnded job.number outcome))
      { job with channel := [], reading := false, tracker := tracker }

theorem SameScans.logProgress (f : Follower) (tracker : Tracker) (force : Bool) :
    SameScans f (f.logProgress tracker force).1 := by
  unfold Follower.logProgress
  dsimp only
  split
  · exact note f id
  · exact refl f

theorem toldTo_logProgress (f : Follower) (tracker : Tracker) (force : Bool) (position : Nat) :
    toldTo position (f.logProgress tracker force).1.history = toldTo position f.history := by
  unfold logProgress
  dsimp only
  split <;> rfl

theorem scanned_logProgress (f : Follower) (tracker : Tracker) (force : Bool) :
    (f.logProgress tracker force).2.scanned = tracker.scanned := by
  unfold logProgress Tracker.log
  dsimp only
  split <;> rfl

theorem consumes_takeReport {f : Follower} {job : RescanJob} {report : Report} {rest : List Report}
    (held : f.rescanSlot.token = some (.rescan job.attempt))
    (channel : job.channel = report :: rest) :
    Consumes f job (f.takeReport job rest report).1 (f.takeReport job rest report).2 := by
  cases report with
  | height h =>
    let told := f.broadcast (.rescan h .progress)
    refine .took channel (scanned_logProgress told _ false) ?_ ?_
    · have sent : SameScans f told := SameScans.of_told (Told.broadcast _ f)
      exact sent.trans (SameScans.logProgress told _ false)
    · intro position hears
      rw [← Tells.broadcast f (.rescan h .progress) nofun position hears]
      exact toldTo_logProgress told _ false position
  | failure e =>
    let stopped := (f.log (.rescanFailed e)).cancel (.rescan job.attempt)
    have cancelled : SameScans f stopped := by
      have told : Told (fun _ => False) f stopped :=
        (Told.log f _).trans (Told.cancel (Or.inr held))
      exact SameScans.of_told told
    refine .ended (.failed channel) (cancelled.trans (SameScans.of_told (Told.broadcast _ _))) ?_
    intro position hears
    exact Tells.broadcast stopped (.syncError .rescanFailed (.wallet e)) nofun position hears

theorem consumes_closeRescan {f : Follower} {job : RescanJob} (channel : job.channel = [])
    (ended : job.producer = .ended) :
    Consumes f job (f.closeRescan job).1 (f.closeRescan job).2 := by
  unfold closeRescan
  dsimp only
  let summed := f.log (.rescanSummary job.tracker)
  have logged : SameScans f summed := SameScans.note f id
  cases cancelled : f.isCancelled (.rescan job.attempt) with
  | true =>
    have stops : summed.isCancelled (.rescan job.attempt) = true := cancelled
    rw [if_pos stops]
    let noted := summed.log (.rescanCanceled job.tracker.scanned)
    have told : SameScans summed noted := SameScans.note summed id
    refine .ended (.canceled channel ended cancelled)
      ((logged.trans told).trans (SameScans.of_told (Told.broadcast _ noted))) ?_
    intro position hears
    exact Tells.broadcast noted (.rescan job.tracker.scanned .progress) nofun position hears
  | false =>
    have goesOn : ¬ summed.isCancelled (.rescan job.attempt) = true := by
      have same : summed.isCancelled (.rescan job.attempt) = false := cancelled
      simp [same]
    rw [if_neg goesOn]
    let shown := (summed.logProgress job.tracker true).1
    have told : SameScans summed shown := SameScans.logProgress summed _ true
    refine .ended (.finished channel ended cancelled)
      ((logged.trans told).trans (SameScans.of_told (Told.broadcast _ shown))) ?_
    intro position hears
    rw [Tells.broadcast shown (.rescan _ .finish) nofun position ((logged.trans told).hears hears)]
    exact congrArg (List.cons _) (toldTo_logProgress summed _ true position)

theorem consumes_consume {f g : Follower} {job after : RescanJob}
    (held : f.rescanSlot.token = some (.rescan job.attempt))
    (stepped : f.consume job = some (g, after)) : Consumes f job g after := by
  unfold consume at stepped
  split at stepped
  · contradiction
  · split at stepped
    · rename_i report rest channel
      obtain ⟨rfl, rfl⟩ := Prod.mk.inj (Option.some.inj stepped)
      exact consumes_takeReport held channel
    · rename_i channel
      split at stepped
      · rename_i ended
        obtain ⟨rfl, rfl⟩ := Prod.mk.inj (Option.some.inj stepped)
        exact consumes_closeRescan channel ended
      · contradiction

/-- The reader need not wait if there is a report, or if the wallet's side has ended. -/
theorem consume_able (f : Follower) {job : RescanJob} (reading : job.reading = true)
    (able : job.channel ≠ [] ∨ job.producer = .ended) : ∃ g after,
      f.consume job = some (g, after) := by
  unfold consume
  simp only [reading, Bool.not_true, Bool.false_eq_true, if_false]
  cases channel : job.channel with
  | cons report rest => exact ⟨_, _, rfl⟩
  | nil =>
    have ended : job.producer = .ended := able.resolve_left fun some => some channel
    simp only [ended]
    exact ⟨_, _, rfl⟩

end Follower

end ChainFollower

import ChainFollower.Proofs.Delivery

/-! A scan that panics. Nobody looks at how the wallet's side ended: its channel is closed as when it
has come to its end, and the reader takes that for the end of the scan. -/
namespace ChainFollower

open Report Follower

def RescanJob.PanicsNext (job : RescanJob) : Prop :=
  ∃ script, job.producer = .scanning script none ∧
    (ScanStep.next script.items = .panic ∨
      ScanStep.next script.items = .exhausted ∧ script.ending = .panic)

theorem RescanJob.PanicsNext.produce {job : RescanJob} (panics : job.PanicsNext) (f : Follower) :
    f.produce job = some (f, { job with producer := .ended }) := by
  obtain ⟨script, scanning, panic | ⟨exhausted, ending⟩⟩ := panics
  · simp [Follower.produce, scanning, panic]
  · simp [Follower.produce, scanning, exhausted, ending]

namespace Watch

variable {number position : Nat} {w v : Watch} {move : Move} {g : Follower}

def Closed (number : Nat) (w : Watch) : Prop :=
  ∀ job ∈ w.follower.rescans, job.number = number → job.producer = .ended

theorem Closed.moved (position : Nat) (closed : w.Closed number) (accounted : w.follower.Accounted)
    (given : number ≤ w.follower.counts.rescans) (made : w.follower.move? move = some g) :
    (w.next number position move g).sent = w.sent ∧
      (w.next number position move g).Closed number := by
  unfold Closed
  rw [next_follower]
  rcases move.own_cases number with rfl | rfl | other
  · obtain ⟨job, member, named, e, after, stepped, _⟩ := produced_of_move accounted made
    exact absurd (closed job member named) (produces_produce stepped).2.1
  · obtain ⟨job, member, rfl, _, e, after, consumes, rfl⟩ := consumed_of_move accounted made
    rw [next_consume member accounted]
    have same : after.producer = job.producer := by cases consumes <;> rfl
    refine ⟨rfl, fun other inside named => ?_⟩
    rw [eq_of_mem_replaced inside named]
    exact same.trans (closed job member rfl)
  · have spares := (accounted.rescanMoved made).spares given other
    rw [next_other other]
    refine ⟨rfl, fun job member named => ?_⟩
    obtain ⟨old, before, same, _, ended⟩ := spares.before job member named
    exact ended (closed old before same)

theorem Ran.closed {allowed : Move → Prop} (ran : Ran allowed number position w v)
    (watching : w.Watching number position) (closed : w.Closed number) :
    v.sent = w.sent ∧ v.Closed number := by
  induction ran with
  | start => exact ⟨rfl, closed⟩
  | move before may made ih =>
    obtain ⟨sent, still⟩ := ih
    have watched := before.watching watching
    obtain ⟨same, after⟩ := still.moved position watched.accounted watched.given made
    exact ⟨same.trans sent, after⟩

theorem Live.panicked {job : RescanJob} (position : Nat) (live : w.Live number job)
    (panics : job.PanicsNext) (accounted : w.follower.Accounted)
    (made : w.follower.move? (.produce number) = some g) :
    (w.next number position (.produce number) g).sent = w.sent ∧
      (w.next number position (.produce number) g).Closed number := by
  have still := accounted.moved made
  obtain ⟨e, after, new, stepped, _, channel, _, sent, goesOn⟩ := live.produced accounted made
  rw [panics.produce] at stepped
  obtain ⟨rfl, rfl⟩ := Prod.mk.inj (Option.some.inj stepped)
  have none : new = [] := List.self_eq_append_right.mp channel
  rw [sent, none, List.append_nil]
  refine ⟨rfl, fun other inside named => ?_⟩
  rw [next_follower] at inside
  have one := goesOn.eq (next_follower.symm ▸ still) (next_follower.symm ▸ inside) named
  rw [one]

/-- What is heard of a scan that panicked at `w`, and nobody cancelled. -/
structure ToldFinished (number position : Nat) (w v : Watch) : Prop where
  sent : v.sent = w.sent
  unfailed : ∀ code cause, .syncError code cause ∉ v.heard
  finished : v.Over number → v.cancelled = false →
    v.heard = (heights w.sent).map (fun h => .rescan h .progress) ++
        [.rescan (farthest (heights w.sent)) .finish] ∧
      rescanOutcomes number v.follower.history = [.finished (farthest (heights w.sent))]
  ends : ∃ u, Ran (fun move => move = .consume number) number position v u ∧ u.Over number

/-- A rescan whose scan panics is reported finished, if nobody cancels it and no failure was sent. -/
theorem panicked_scan_told_finished {c : Course} {first : Watch} {job : RescanJob}
    (begins : first.Begins c number position) (ran : Ran (fun _ => True) number position first w)
    (member : job ∈ w.follower.rescans) (named : job.number = number)
    (reading : job.reading = true) (panics : job.PanicsNext) (unfailed : failure? w.sent = none)
    (made : w.follower.move? (.produce number) = some g)
    (later : Ran (fun _ => True) number position (w.next number position (.produce number) g) v) :
    ToldFinished number position w v := by
  obtain ⟨_, _, _, watchingFirst, _⟩ := begins.live
  have watching := ran.watching watchingFirst
  have after := watching.moved made
  have live := watching.live member named reading
  obtain ⟨sent, closed⟩ := live.panicked position panics watching.accounted made
  obtain ⟨same, still⟩ := later.closed after closed
  have streams := (later.watching after).streams
  have all : v.sent = w.sent := same.trans sent
  -- What is heard depends on what was sent alone, and nothing was sent since the panic.
  refine ⟨all, ?_, ?_, ?_⟩
  · intro code cause
    cases (later.watching after).stands with
    | live other live =>
      obtain ⟨reached, _, heard, _⟩ := live.taken
      simp [heard]
    | ended ended => simp [ended.heard, events, lastEvent, all, unfailed]
  · intro stopped free
    obtain ⟨heard, outcomes⟩ := streams.ended stopped
    rw [heard, outcomes, all, free]
    simp [events, lastEvent, outcome, unfailed]
  · -- The reader never has to wait: the wallet's side has ended.
    obtain ⟨u, drained, _, stopped | ⟨_, _, other, inside, here, goesOn⟩⟩ := streams.drains
    · exact ⟨u, drained, stopped⟩
    · have ended := (drained.closed (later.watching after) still).2 other inside here
      exact absurd ended goesOn

/-- The scan panics behind its last height. -/
theorem panicked_scan_told_finished_last :
    ∃ (c : Course) (first w v : Watch), first.Begins c 1 0 ∧ ToldFinished 1 0 w v ∧
      v.follower.rescans = [] ∧ v.heard = [.rescan 5 .progress, .rescan 5 .finish] := by
  let job : RescanJob := ⟨1, 1, .foreign "node", .scanning ⟨[], .panic, false⟩ none, [.height 5],
    Tracker.new 0, true⟩
  have panics : job.PanicsNext := ⟨_, rfl, Or.inr ⟨rfl, rfl⟩⟩
  have begins := began_begins ⟨[.height 5], .panic, false⟩
  have told := panicked_scan_told_finished begins
    (.of_after (fun _ _ => trivial)
      (rfl : after? 1 0 _ [.produce 1, .produce 1, .produce 1] = some _))
    (List.mem_singleton.mpr rfl : job ∈ _) rfl rfl panics rfl rfl
    (.of_after (fun _ _ => trivial) (rfl : after? 1 0 _ [.consume 1, .consume 1] = some _))
  exact ⟨_, _, _, _, begins, told, rfl, rfl⟩

/-- The scan panics between two heights: nobody cancelled the rescan and no failure was sent, and
its only listener hears a finish and no error. -/
theorem panicked_scan_is_finished :
    ∃ (c : Course) (first w v : Watch) (g : Follower), first.Begins c 1 0 ∧
      after? 1 0 first [.produce 1, .produce 1, .produce 1] = some w ∧
      (∃ job, w.follower.rescans = [job] ∧ job.PanicsNext) ∧ w.sent = [.height 5] ∧
      w.follower.move? (.produce 1) = some g ∧
      after? 1 0 (w.next 1 0 (.produce 1) g) [.consume 1, .consume 1] = some v ∧
      v.follower.rescans = [] ∧ v.cancelled = false ∧
      v.heard = [.rescan 5 .progress, .rescan 5 .finish] ∧
      rescanOutcomes 1 v.follower.history = [.finished 5] :=
  ⟨_, _, _, _, _, began_begins ⟨[.height 5, .panic, .height 7], .close, false⟩, rfl,
    ⟨_, rfl, _, rfl, Or.inl rfl⟩, rfl, rfl, rfl, rfl, rfl, rfl, rfl⟩

end Watch

end ChainFollower

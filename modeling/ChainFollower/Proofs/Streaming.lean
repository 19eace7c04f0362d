import ChainFollower.Proofs.Watch

/-! What a listener hears of a rescan: while the reader goes on, the heights that it took out of the
channel; once it has ended, what all that the channel got comes to. -/
namespace ChainFollower

open Report Follower

namespace Watch

variable {number position : Nat} {w v : Watch} {move : Move} {e g : Follower}
  {job after : RescanJob}

structure Live (number : Nat) (w : Watch) (job : RescanJob) : Prop where
  member : job ∈ w.follower.rescans
  named : job.number = number
  reading : job.reading = true
  taken : ∃ reached, w.sent = reached.map .height ++ job.channel ∧
    w.heard = reached.map (fun h => .rescan h .progress) ∧ job.tracker.scanned = farthest reached

structure Ended (number : Nat) (w : Watch) : Prop where
  stopped : w.Over number
  heard : w.heard = events w.sent w.cancelled
  outcomes : rescanOutcomes number w.follower.history = [outcome w.sent w.cancelled]

inductive Stands (number : Nat) (w : Watch) : Prop where
  | live (job : RescanJob) (live : w.Live number job)
  | ended (ended : w.Ended number)

structure Watching (number position : Nat) (w : Watch) : Prop where
  accounted : w.follower.Accounted
  hears : w.follower.hears position = true
  given : number ≤ w.follower.counts.rescans
  stands : w.Stands number

theorem Live.eq (live : w.Live number job) (accounted : w.follower.Accounted) {other : RescanJob}
    (member : other ∈ w.follower.rescans) (named : other.number = number) : other = job :=
  eq_of_number accounted.jobs.numbers live.member member (named.trans live.named.symm)

theorem Live.not_over (live : w.Live number job) : ¬ w.Over number := by
  intro stopped
  have ended := stopped job live.member live.named
  rw [live.reading] at ended
  contradiction

theorem Watching.live (watching : w.Watching number position)
    (member : job ∈ w.follower.rescans) (named : job.number = number)
    (reading : job.reading = true) : w.Live number job := by
  cases watching.stands with
  | live other live =>
    obtain rfl : job = other := live.eq watching.accounted member named
    exact live
  | ended ended =>
    have stopped := ended.stopped job member named
    rw [reading] at stopped
    contradiction

theorem Live.spared (live : w.Live number job) (spares : Spares number move w.follower g) :
    ∃ producer, Live number { w with follower := g } { job with producer := producer } ∧
      (¬ move.Supplies → producer = job.producer) := by
  obtain ⟨producer, inside, same⟩ := spares.after job live.member live.named
  exact ⟨producer, ⟨inside, live.named, live.reading, live.taken⟩, same⟩

theorem Over.spared (stopped : w.Over number) (spares : Spares number move w.follower g) :
    Over number { w with follower := g } := by
  intro job member named
  obtain ⟨old, before, same, reading, _⟩ := spares.before job member named
  rw [← reading]
  exact stopped old before same

theorem channelOf_replaced (named : after.number = number) :
    channelOf { e with rescans := replaced e.rescans number after } number = after.channel ∨
      channelOf { e with rescans := replaced e.rescans number after } number = [] := by
  unfold channelOf rescan?
  cases found : (replaced e.rescans number after).find? (fun job => job.number == number) with
  | none => exact Or.inr rfl
  | some other =>
    have here : other.number = number := by simpa using List.find?_some found
    obtain rfl : other = after := eq_of_mem_replaced (List.mem_of_find?_eq_some found) here
    exact Or.inl rfl

/-- A step of the wallet's side is unheard. Nothing gets into the channel when the reader has
ended. -/
theorem next_produce (position : Nat) (stepped : w.follower.produce job = some (e, after))
    (member : job ∈ w.follower.rescans) (accounted : w.follower.Accounted)
    (still : Accounted { e with rescans := replaced e.rescans job.number after }) :
    ∃ producer new, after = { job with producer := producer, channel := job.channel ++ new } ∧
      (job.reading = false → new = []) ∧
      w.next job.number position (.produce job.number)
          { e with rescans := replaced e.rescans job.number after } =
        { w with
          follower := { e with rescans := replaced e.rescans job.number after }
          sent := w.sent ++ new } := by
  obtain ⟨untold, _, produces⟩ := produces_produce stepped
  let g : Follower := { e with rescans := replaced e.rescans job.number after }
  have unheard : toldSince position w.follower g = [] := toldSince_same (untold.told position)
  have before := accounted.channelOf_eq member
  have stepTo (new : List Report)
      (grown : (g.channelOf job.number).drop job.channel.length = new) :
      w.next job.number position (.produce job.number) g =
        { w with follower := g, sent := w.sent ++ new } := by
    simp [next, before, grown, unheard]
  cases produces with
  | turned producer =>
    refine ⟨producer, [], by simp, fun _ => rfl, stepTo [] ?_⟩
    have same : ({ job with producer := producer } : RescanJob).number = job.number := rfl
    -- A job that has ended on both sides is dropped, and its channel with it.
    rcases channelOf_replaced (e := e) same with kept | none
    · rw [show g.channelOf job.number = job.channel from kept, List.drop_length]
    · rw [show g.channelOf job.number = [] from none, List.drop_nil]
  | sent producer report reading goesOn =>
    refine ⟨producer, [report], rfl, fun ended => by simp [reading] at ended, stepTo [report] ?_⟩
    have inside : job ∈ e.rescans := untold.rescans ▸ member
    have channel := still.channelOf_eq (mem_replaced_self inside reading)
    exact channel ▸ List.drop_left

theorem next_consume (member : job ∈ w.follower.rescans) (accounted : w.follower.Accounted) :
    w.next job.number position (.consume job.number) g =
      ⟨g, w.sent, w.heard ++ toldSince position w.follower g,
        w.follower.isCancelled (.rescan job.attempt)⟩ := by
  simp [next, accounted.rescan?_eq member]

theorem Live.produced (live : w.Live number job) (accounted : w.follower.Accounted)
    (made : w.follower.move? (.produce number) = some g) :
    ∃ e after new, w.follower.produce job = some (e, after) ∧ g.wallet = e.wallet ∧
      after.channel = job.channel ++ new ∧ after.attempt = job.attempt ∧
      (w.next number position (.produce number) g).sent = w.sent ++ new ∧
      Live number (w.next number position (.produce number) g) after := by
  have still := accounted.moved made
  obtain ⟨other, member, rfl, e, after, stepped, rfl⟩ := produced_of_move accounted made
  obtain rfl : other = job := live.eq accounted member rfl
  obtain ⟨producer, new, rfl, _, stepTo⟩ := next_produce position stepped member accounted still
  have inside : other ∈ e.rescans := (produces_produce stepped).1.rescans ▸ member
  obtain ⟨reached, sent, heard, scanned⟩ := live.taken
  rw [stepTo]
  refine ⟨e, _, new, stepped, rfl, rfl, rfl, rfl, mem_replaced_self inside live.reading, rfl,
    live.reading, reached, ?_, heard, scanned⟩
  simp [sent]

theorem Live.consume_cases (live : w.Live number job) (accounted : w.follower.Accounted)
    (made : w.follower.move? (.consume number) = some g) :
    ∃ e after, Consumes w.follower job e after ∧
      g = { e with rescans := replaced e.rescans number after } := by
  obtain ⟨other, member, named, _, e, after, consumes, same⟩ := consumed_of_move accounted made
  obtain rfl : other = job := live.eq accounted member named
  exact ⟨e, after, consumes, same⟩

/-- The reader took a height out and told it, or it has ended. -/
theorem Live.consumed (live : w.Live number job) (consumes : Consumes w.follower job e after)
    (accounted : w.follower.Accounted) (hears : w.follower.hears position = true)
    (after_eq : g = { e with rescans := replaced e.rescans number after }) :
    (∃ report, job.channel = report :: after.channel ∧ after.producer = job.producer ∧
        after.attempt = job.attempt ∧
        Live number (w.next number position (.consume number) g) after) ∨
      Ended number (w.next number position (.consume number) g) ∧
        ∃ result event, Closes w.follower job result event := by
  obtain ⟨member, rfl, reading, reached, sent, heard, scanned⟩ := live
  have toldSame : toldSince position w.follower g = toldSince position w.follower e := by
    rw [after_eq]
    rfl
  rw [next_consume member accounted, toldSame, after_eq]
  cases consumes with
  | @took h rest tracker e channel further still tells =>
    refine Or.inl ⟨.height h, channel, rfl, rfl, ?_, rfl, reading, reached ++ [h], ?_, ?_, ?_⟩
    · exact mem_replaced_self (still.rescans ▸ member) reading
    · simp [sent, channel]
    · have told : toldSince position w.follower e = [.rescan h .progress] :=
        toldSince_tells tells hears
      simp [heard, told]
    · rw [farthest_append, ← scanned]
      exact further
  | @ended result event tracker told closes still tells =>
    obtain ⟨all, last, came⟩ := closes.eq sent scanned
    refine Or.inr ⟨⟨?_, ?_, ?_⟩, result, event, closes⟩
    · intro other inside named
      exact (accounted.sameScans still).unread (still.rescans ▸ member) reading rfl other inside
    · have tellsLast : Tells event w.follower
          (told.releaseRescan.note (.rescanEnded job.number result)) := tells
      simp [events, all, heard, toldSince_tells tellsLast hears, last]
    · have none : rescanOutcomes job.number told.history = [] := by
        rw [still.outcomes]
        exact accounted.goesOn job member reading
      change rescanOutcomes job.number ([.rescanEnded job.number result] ++ told.history) = _
      rw [rescanOutcomes_append, none, came]
      simp [rescanOutcomes]

/-- Once the reader has ended, nothing more comes from the rescan. -/
theorem Over.moved (position : Nat) (stopped : w.Over number) (accounted : w.follower.Accounted)
    (given : number ≤ w.follower.counts.rescans) (made : w.follower.move? move = some g) :
    w.next number position move g = { w with follower := g } ∧
      Over number { w with follower := g } ∧
      rescanOutcomes number g.history = rescanOutcomes number w.follower.history := by
  rcases move.own_cases number with rfl | rfl | other
  · have still := accounted.moved made
    obtain ⟨job, member, rfl, e, after, stepped, rfl⟩ := produced_of_move accounted made
    have ended := stopped job member rfl
    obtain ⟨producer, new, rfl, shut, stepTo⟩ := next_produce position stepped member accounted still
    obtain rfl : new = [] := shut ended
    refine ⟨?_, ?_, (produces_produce stepped).1.outcomes _⟩
    · rw [stepTo, List.append_nil w.sent]
    · intro one inside named
      rw [eq_of_mem_replaced inside named]
      exact ended
  · obtain ⟨job, member, named, reading, _⟩ := consumed_of_move accounted made
    have ended := stopped job member named
    rw [reading] at ended
    contradiction
  · have spares := (accounted.rescanMoved made).spares given other
    exact ⟨next_other other, stopped.spared spares, spares.outcomes⟩

theorem Watching.moved (watching : w.Watching number position)
    (made : w.follower.move? move = some g) :
    (w.next number position move g).Watching number position := by
  obtain ⟨accounted, hears, given, stands⟩ := watching
  have moved := accounted.rescanMoved made
  have still : Stands number (w.next number position move g) := by
    cases stands with
    | ended ended =>
      obtain ⟨stepTo, stopped, outcomes⟩ := ended.stopped.moved position accounted given made
      rw [stepTo]
      exact .ended ⟨stopped, ended.heard, outcomes.trans ended.outcomes⟩
    | live job live =>
      -- Only the reader's own step can end it.
      rcases move.own_cases number with rfl | rfl | other
      · obtain ⟨_, after, _, _, _, _, _, _, goesOn⟩ := live.produced accounted made
        exact .live after goesOn
      · obtain ⟨e, after, consumes, same⟩ := live.consume_cases accounted made
        rcases live.consumed consumes accounted hears same with ⟨_, _, _, _, goesOn⟩ | ⟨ended, _⟩
        · exact .live after goesOn
        · exact .ended ended
      · obtain ⟨producer, goesOn, _⟩ := live.spared (moved.spares given other)
        rw [next_other other]
        exact .live _ goesOn
  constructor
  · rw [next_follower]
    exact accounted.moved made
  · rw [next_follower]
    exact moved.onward.hears hears
  · rw [next_follower]
    exact Nat.le_trans given moved.onward.count
  · exact still

theorem Ran.watching {allowed : Move → Prop} (ran : Ran allowed number position w v)
    (watching : w.Watching number position) : v.Watching number position := by
  induction ran with
  | start => exact watching
  | move before may made ih => exact ih.moved made

/-- Whoever watches later finds nothing more. -/
theorem Ran.stopped {allowed : Move → Prop} (ran : Ran allowed number position w v)
    (watching : w.Watching number position) (stopped : w.Over number) :
    v.Over number ∧ v.heard = w.heard ∧ v.sent = w.sent ∧
      rescanOutcomes number v.follower.history = rescanOutcomes number w.follower.history := by
  induction ran with
  | start => exact ⟨stopped, rfl, rfl, rfl⟩
  | move before may made ih =>
    obtain ⟨ended, heard, sent, outcomes⟩ := ih
    have still := before.watching watching
    obtain ⟨stepTo, after, same⟩ := ended.moved position still.accounted still.given made
    rw [stepTo]
    exact ⟨after, heard, sent, same.trans outcomes⟩

end Watch

end ChainFollower

import ChainFollower.Proofs.Streaming

/-! The stream of a rescan, whole: a listener hears every height that got into the channel before the
first failure, in order, and then the end that goes with it. What the wallet offers decides it all,
if nobody cancels the rescan. -/
namespace ChainFollower

open Report Follower

def Producer.offers (script : RescanScript) : Producer → List Report
  | ready => RescanItem.reports script.items
  | scanning rest waiting => waiting.toList ++ RescanItem.reports rest.items
  | ended => []

namespace Follower

variable {f g : Follower} {move : Move}

/-- A step of the wallet's side sends what is offered next, and drops nothing. -/
theorem offers_produce {job after : RescanJob} {new : List Report}
    (stepped : f.produce job = some (g, after)) (reading : job.reading = true)
    (goesOn : f.isCancelled (.rescan job.attempt) = false)
    (grown : after.channel = job.channel ++ new) :
    job.producer.offers f.wallet.rescan = new ++ after.producer.offers g.wallet.rescan := by
  have unsent (same : after.channel = job.channel) : new = [] := by
    rw [same] at grown
    exact List.self_eq_append_right.mp grown
  unfold produce at stepped
  dsimp only at stepped
  -- A report leaves the offer when it gets into the channel, not when the scan comes to it.
  split at stepped
  · contradiction
  · rename_i ready
    obtain ⟨rfl, rfl⟩ := Prod.mk.inj (Option.some.inj stepped)
    rw [unsent rfl, ready]
    rfl
  · rename_i script report waits
    simp only [reading, Bool.not_true, Bool.false_eq_true, if_false] at stepped
    split at stepped
    · obtain ⟨rfl, rfl⟩ := Prod.mk.inj (Option.some.inj stepped)
      have one : [report] = new := List.append_cancel_left grown
      rw [← one, waits]
      rfl
    · contradiction
  · rename_i script scanning
    have next := RescanItem.reports_next script.items
    simp only [goesOn, Bool.false_and, Bool.false_eq_true, if_false] at stepped
    split at stepped
    · rename_i report rest item
      obtain ⟨rfl, rfl⟩ := Prod.mk.inj (Option.some.inj stepped)
      rw [unsent rfl, scanning]
      simpa [Producer.offers, item] using next
    · rename_i item
      obtain ⟨rfl, rfl⟩ := Prod.mk.inj (Option.some.inj stepped)
      rw [unsent rfl, scanning]
      simpa [Producer.offers, item] using next
    · rename_i item
      split at stepped
      · contradiction
      · obtain ⟨rfl, rfl⟩ := Prod.mk.inj (Option.some.inj stepped)
        rw [unsent rfl, scanning]
        simpa [Producer.offers, item] using next
      · obtain ⟨rfl, rfl⟩ := Prod.mk.inj (Option.some.inj stepped)
        rw [unsent rfl, scanning]
        simpa [Producer.offers, item] using next

theorem RescanMoved.script (moved : RescanMoved f move g) (unsupplied : ¬ move.Supplies) :
    g.wallet.rescan = f.wallet.rescan := by
  cases moved with
  | spared _ unscanned => exact unscanned.script
  | called call => cases call <;> rfl
  | fed items ending change same => rfl
  | scripted script => exact absurd trivial unsupplied
  | produced member stepped => exact (produces_produce stepped).1.script
  | consumed member reading consumes =>
    cases consumes with
    | took channel scanned still tells => exact still.script
    | ended closes still tells => exact still.script

end Follower

namespace Watch

variable {number position : Nat} {w v : Watch} {move : Move} {g : Follower}

/-- The reports that got into the channel and those that are still offered are what the wallet had. -/
structure Offered (script : RescanScript) (number : Nat) (w : Watch) : Prop where
  has : w.follower.wallet.rescan = script
  live : ∀ job, w.Live number job → w.follower.isCancelled (.rescan job.attempt) = false →
    w.sent ++ job.producer.offers script = RescanItem.reports script.items
  stopped : w.Over number → w.cancelled = false →
    heights w.sent = heights (RescanItem.reports script.items) ∧
      failure? w.sent = failure? (RescanItem.reports script.items)

/-- A reader that ended though nobody cancelled has all that was offered, up to a failure. -/
theorem Offered.closes {script : RescanScript} {job : RescanJob} {result : RescanOutcome}
    {event : Event} (offered : w.Offered script number) (live : w.Live number job)
    (closes : Closes w.follower job result event)
    (goesOn : w.follower.isCancelled (.rescan job.attempt) = false) :
    heights w.sent = heights (RescanItem.reports script.items) ∧
      failure? w.sent = failure? (RescanItem.reports script.items) := by
  have all := offered.live job live goesOn
  obtain ⟨reached, sent, _⟩ := live.taken
  cases closes with
  | @failed e rest channel =>
    -- More may be offered behind the failure, but nobody looks there.
    have failed : failure? w.sent = some e := by simp [sent, channel, failure?]
    obtain ⟨same, still⟩ := append_of_failed failed (job.producer.offers script)
    rw [← all]
    exact ⟨same.symm, still.symm⟩
  | canceled channel ended cancelled =>
    rw [goesOn] at cancelled
    contradiction
  | finished channel ended =>
    rw [ended] at all
    rw [← all]
    simp [Producer.offers]

theorem Offered.moved {script : RescanScript} (offered : w.Offered script number)
    (watching : w.Watching number position) (unsupplied : ¬ move.Supplies)
    (made : w.follower.move? move = some g) :
    (w.next number position move g).Offered script number := by
  have still := watching.moved made
  obtain ⟨accounted, hears, given, stands⟩ := watching
  have moved := accounted.rescanMoved made
  have has : g.wallet.rescan = script := (moved.script unsupplied).trans offered.has
  have kept : (w.next number position move g).follower.wallet.rescan = script := by
    rw [next_follower]
    exact has
  have goesOn {token : Token} (after : g.isCancelled token = false) :
      w.follower.isCancelled token = false := by
    cases before : w.follower.isCancelled token with
    | false => rfl
    | true =>
      rw [moved.onward.cancelled before] at after
      contradiction
  -- While the reader goes on, only the sum of its job has to be looked at.
  have of_live {after : RescanJob} (live : (w.next number position move g).Live number after)
      (sum : g.isCancelled (.rescan after.attempt) = false →
        (w.next number position move g).sent ++ after.producer.offers script =
          RescanItem.reports script.items) :
      (w.next number position move g).Offered script number := by
    refine ⟨kept, fun other otherLive free => ?_, fun stopped => absurd stopped live.not_over⟩
    obtain rfl : other = after := live.eq still.accounted otherLive.member otherLive.named
    rw [next_follower] at free
    exact sum free
  cases stands with
  | ended ended =>
    obtain ⟨stepTo, stopped, _⟩ := ended.stopped.moved position accounted given made
    rw [stepTo]
    refine ⟨has, fun job live => absurd stopped live.not_over, fun _ => ?_⟩
    exact offered.stopped ended.stopped
  | live job live =>
    rcases move.own_cases number with rfl | rfl | other
    · obtain ⟨e, after, new, stepped, wallet, channel, attempt, sent, after'⟩ :=
        live.produced accounted made
      refine of_live after' fun free => ?_
      have before := goesOn (attempt ▸ free)
      have next := offers_produce stepped live.reading before channel
      rw [offered.has, ← wallet, has] at next
      rw [sent, List.append_assoc, ← next]
      exact offered.live job live before
    · obtain ⟨e, after, consumes, same⟩ := live.consume_cases accounted made
      have stepTo : w.next number position (.consume number) g =
          ⟨g, w.sent, w.heard ++ toldSince position w.follower g,
            w.follower.isCancelled (.rescan job.attempt)⟩ :=
        live.named ▸ next_consume live.member accounted
      rcases live.consumed consumes accounted hears same with
        ⟨_, _, producer, attempt, after'⟩ | ⟨ended, _, _, closes⟩
      · refine of_live after' fun free => ?_
        rw [producer, stepTo]
        exact offered.live job live (goesOn (attempt ▸ free))
      · refine ⟨kept, fun one after' => absurd ended.stopped after'.not_over, fun _ free => ?_⟩
        rw [stepTo] at free ⊢
        exact offered.closes live closes free
    · obtain ⟨producer, after', same⟩ := live.spared (moved.spares given other)
      rw [same unsupplied] at after'
      have stepTo := @next_other number position w move g other
      refine of_live (stepTo ▸ after') fun free => ?_
      rw [stepTo]
      exact offered.live job live (goesOn free)

theorem Ran.offered {script : RescanScript} {allowed : Move → Prop}
    (unsupplied : ∀ move, allowed move → ¬ move.Supplies)
    (ran : Ran allowed number position w v) (watching : w.Watching number position)
    (offered : w.Offered script number) : v.Offered script number := by
  induction ran with
  | start => exact offered
  | move before may made ih => exact ih.moved (before.watching watching) (unsupplied _ may) made

/-- A rescan that has just been started is watched, and all that the wallet has is offered. -/
theorem Begins.live {c : Course} (begins : w.Begins c number position) :
    ∃ job, w.Live number job ∧ job.producer = .ready ∧ w.Watching number position ∧
      w.follower.wallet.rescan = c.follower.wallet.rescan := by
  obtain ⟨reached, started, hears, fresh⟩ := begins
  obtain ⟨given, wallet, listeners, _, link, member⟩ := startRescan_started started
  have call := comesTo_startRescan c.follower
  rw [started] at call
  have hears' : w.follower.hears position = true := by
    unfold Follower.hears at hears ⊢
    rwa [listeners]
  have live : w.Live number ⟨number, c.follower.counts.rescanAttempts + 1, link, .ready, [],
      Tracker.new 0, true⟩ := by
    refine ⟨member, rfl, rfl, [], ?_, ?_, rfl⟩
    · exact congrArg sent fresh
    · exact congrArg heard fresh
  exact ⟨_, live, rfl, ⟨reached.accounted.called call, hears', Nat.le_of_eq given, .live _ live⟩,
    congrArg Wallet.rescan wallet⟩

/-- A step that the reader need not wait for. -/
theorem Live.consume {job : RescanJob} (live : w.Live number job)
    (watching : w.Watching number position) (able : job.channel ≠ [] ∨ job.producer = .ended) :
    ∃ g, w.follower.move? (.consume number) = some g ∧
      (w.next number position (.consume number) g).sent = w.sent ∧
      ((∃ report after, job.channel = report :: after.channel ∧
          Live number (w.next number position (.consume number) g) after) ∨
        Over number (w.next number position (.consume number) g)) := by
  have accounted := watching.accounted
  obtain ⟨e, after, stepped⟩ := consume_able w.follower live.reading able
  have made := accounted.rescanTurn_eq live.member stepped
  rw [live.named] at made
  refine ⟨_, made, ?_, ?_⟩
  · have stepTo := @next_consume position w { e with rescans := replaced e.rescans number after } job
      live.member accounted
    rw [live.named] at stepTo
    rw [stepTo]
  · obtain ⟨e', after', consumes, same⟩ := live.consume_cases accounted made
    rcases live.consumed consumes accounted watching.hears same with
      ⟨report, taken, _, _, goesOn⟩ | ⟨ended, _⟩
    · exact Or.inl ⟨report, after', taken, goesOn⟩
    · exact Or.inr ended.stopped

/-- The reader alone comes to its end, or to where it has told everything and the wallet's side goes
on. -/
theorem Live.drains {job : RescanJob} {waiting : List Report} (live : w.Live number job)
    (watching : w.Watching number position) (channel : job.channel = waiting) :
    ∃ v, Ran (fun move => move = .consume number) number position w v ∧ v.sent = w.sent ∧
      (v.Over number ∨ v.heard = (heights w.sent).map (fun h => .rescan h .progress) ∧
        failure? w.sent = none ∧
          ∃ other ∈ v.follower.rescans, other.number = number ∧ other.producer ≠ .ended) := by
  -- Every step takes one report out of the channel, and a failure ends the reader before it is
  -- empty.
  induction waiting generalizing w job with
  | nil =>
    by_cases ended : job.producer = .ended
    · obtain ⟨g, made, sent, ⟨report, after, taken, _⟩ | stopped⟩ :=
        live.consume watching (Or.inr ended)
      · rw [channel] at taken
        contradiction
      · exact ⟨_, .move .start rfl made, sent, Or.inl stopped⟩
    · obtain ⟨reached, sent, heard, _⟩ := live.taken
      rw [channel, List.append_nil] at sent
      refine ⟨w, .start, rfl, Or.inr ⟨?_, ?_, job, live.member, live.named, ended⟩⟩
      · rw [sent, heights_map, heard]
      · rw [sent, failure?_map]
  | cons report rest ih =>
    obtain ⟨g, made, sent, ⟨_, after, taken, goesOn⟩ | stopped⟩ :=
      live.consume watching (Or.inl (by simp [channel]))
    · rw [channel] at taken
      obtain ⟨v, ran, same, ends⟩ := ih goesOn (watching.moved made) (List.cons.inj taken).2.symm
      rw [sent] at same ends
      have taking : Ran (fun move => move = .consume number) number position w _ :=
        .move .start rfl made
      exact ⟨v, taking.trans ran, same, ends⟩
    · exact ⟨_, .move .start rfl made, sent, Or.inl stopped⟩

structure Streams (number position : Nat) (w : Watch) : Prop where
  /-- Nothing is lost while the reader goes on: what was not heard yet waits in the channel. -/
  live : ∀ job ∈ w.follower.rescans, job.number = number → job.reading = true →
    rescanOutcomes number w.follower.history = [] ∧ ∃ reached : List Height,
      w.sent = reached.map .height ++ job.channel ∧
        w.heard = reached.map (fun h => .rescan h .progress)
  ended : w.Over number → w.heard = events w.sent w.cancelled ∧
    rescanOutcomes number w.follower.history = [outcome w.sent w.cancelled]
  silent : w.Over number → ∀ v, Ran (fun _ => True) number position w v →
    v.Over number ∧ v.heard = w.heard ∧ v.sent = w.sent ∧
      rescanOutcomes number v.follower.history = rescanOutcomes number w.follower.history
  drains : ∃ v, Ran (fun move => move = .consume number) number position w v ∧ v.sent = w.sent ∧
    (v.Over number ∨ v.heard = (heights w.sent).map (fun h => .rescan h .progress) ∧
      failure? w.sent = none ∧
        ∃ job ∈ v.follower.rescans, job.number = number ∧ job.producer ≠ .ended)

theorem Watching.streams (watching : w.Watching number position) : w.Streams number position where
  live job member named reading := by
    obtain ⟨reached, sent, heard, _⟩ := (watching.live member named reading).taken
    exact ⟨named ▸ watching.accounted.goesOn job member reading, reached, sent, heard⟩
  ended stopped := by
    cases watching.stands with
    | ended ended => exact ⟨ended.heard, ended.outcomes⟩
    | live job live => exact absurd stopped live.not_over
  silent stopped v ran := ran.stopped watching stopped
  drains := by
    cases watching.stands with
    | ended ended => exact ⟨w, .start, rfl, Or.inl ended.stopped⟩
    | live job live => exact live.drains watching rfl

/-- The stream of a rescan that is watched from its start on. The second half says what it is when
nobody cancels the rescan or gives the wallet more to send: the same for every capacity of the
channel and every order of the steps. -/
theorem rescan_stream_exact {c : Course} {first : Watch} (begins : first.Begins c number position)
    (ran : Ran (fun _ => True) number position first w) :
    w.Streams number position ∧
      (Ran (fun move => ¬ move.Supplies) number position first w → w.Over number →
        w.cancelled = false →
        w.heard = events (RescanItem.reports c.follower.wallet.rescan.items) false ∧
          rescanOutcomes number w.follower.history =
            [outcome (RescanItem.reports c.follower.wallet.rescan.items) false]) := by
  obtain ⟨job, live, ready, watching, has⟩ := begins.live
  have streams := (ran.watching watching).streams
  refine ⟨streams, fun unsupplied stopped goesOn => ?_⟩
  have offered : first.Offered c.follower.wallet.rescan number := by
    refine ⟨has, fun other otherLive _ => ?_, fun stopped => absurd stopped live.not_over⟩
    obtain rfl : other = job := live.eq watching.accounted otherLive.member otherLive.named
    rw [ready, begins.fresh]
    rfl
  obtain ⟨all, failed⟩ := (unsupplied.offered (fun _ => id) watching offered).stopped stopped goesOn
  obtain ⟨heard, outcomes⟩ := streams.ended stopped
  rw [heard, outcomes, goesOn]
  simp only [events, lastEvent, outcome, all, failed, and_self]

/-- The channel has room for one report, so that the two sides take turns. -/
theorem rescan_stream_exact_turns :
    ∃ (c : Course) (first w : Watch), first.Begins c 1 0 ∧ w.Streams 1 0 ∧
      w.follower.rescans = [] ∧ w.sent = [.height (-4), .height 5, .height 3] ∧
      w.heard = [.rescan (-4) .progress, .rescan 5 .progress, .rescan 3 .progress,
        .rescan 5 .finish] ∧
      rescanOutcomes 1 w.follower.history = [.finished 5] := by
  have begins := began_begins ⟨[.height (-4), .height 5, .height 3], .close, false⟩
  have streams := rescan_stream_exact begins (.of_after (fun _ _ => trivial) (rfl : after? 1 0 _
    [.produce 1, .produce 1, .produce 1, .consume 1, .produce 1, .produce 1, .produce 1, .consume 1,
      .produce 1, .produce 1, .consume 1, .consume 1] = some _))
  exact ⟨_, _, _, begins, streams.1, rfl, rfl, rfl, rfl⟩

end Watch

end ChainFollower

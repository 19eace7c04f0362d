import ChainFollower.Proofs.Course
import ChainFollower.Proofs.Jobs
import ChainFollower.Proofs.Rescanning

/-! The books of rescans: at most one reader goes on, the slot has its token, and no two rescans
share a number or a token. Every move keeps them. -/
namespace ChainFollower

namespace Follower

structure Accounted (f : Follower) : Prop where
  slot : f.rescanSlot = ⟨false, none⟩ ∧ f.live = [] ∨
    ∃ attempt, f.rescanSlot = ⟨true, some (.rescan attempt)⟩ ∧ f.live = [attempt]
  jobs : ToldApart f.rescans f.counts.rescans f.counts.rescanAttempts
  session : ∀ attempt, f.session.token ≠ some (.rescan attempt)
  cancelled : ∀ attempt, .rescan attempt ∈ f.cancelled → attempt ≤ f.counts.rescanAttempts
  outcomes : ∀ number, f.counts.rescans < number → rescanOutcomes number f.history = []
  goesOn : ∀ job ∈ f.rescans, job.reading = true → rescanOutcomes job.number f.history = []

inductive RescanCallComesTo (f : Follower) : Follower × RescanStart → Prop where
  | barred {e : SyncError} (bars : f.rescanLink = .error e) :
    RescanCallComesTo f (f, .stopped (.failed e))
  | unmade {link : Link} (free : f.rescanLink = .ok link) (text : String) :
    RescanCallComesTo f
      (((f.occupyRescan (f.counts.rescanAttempts + 1)).log (.rescanStarting link.name)).releaseRescan,
        .stopped (.panicked text))
  | started {link : Link} (free : f.rescanLink = .ok link) :
    RescanCallComesTo f
      ({ (f.occupyRescan (f.counts.rescanAttempts + 1)).log (.rescanStarting link.name) with
        counts := { f.counts with
          rescanAttempts := f.counts.rescanAttempts + 1, rescans := f.counts.rescans + 1 }
        rescans := f.rescans ++ [⟨f.counts.rescans + 1, f.counts.rescanAttempts + 1, link, .ready, [],
          Tracker.new 0, true⟩] }, .started (f.counts.rescans + 1))

theorem comesTo_startRescan (f : Follower) : RescanCallComesTo f f.startRescan := by
  unfold startRescan
  split
  · rename_i e bars
    exact .barred bars
  · rename_i link free
    dsimp only
    split
    · exact .unmade free _
    · exact .started free

theorem startRescan_started {f g : Follower} {number : Nat}
    (start : f.startRescan = (g, .started number)) :
    number = g.counts.rescans ∧ g.wallet = f.wallet ∧ g.listeners = f.listeners ∧
      g.cancelled = f.cancelled ∧ ∃ link, (⟨number, f.counts.rescanAttempts + 1, link, .ready, [],
        Tracker.new 0, true⟩ : RescanJob) ∈ g.rescans := by
  have call := comesTo_startRescan f
  rw [start] at call
  cases call with
  | @started link free =>
    exact ⟨rfl, rfl, rfl, rfl, link, List.mem_append_right _ (List.mem_singleton.mpr rfl)⟩

inductive RescanMoved (f : Follower) : Move → Follower → Prop where
  | spared {move : Move} {g : Follower} (other : ¬ move.Scans) (unscanned : SameScans f g) :
    RescanMoved f move g
  | called {g : Follower} {result : RescanStart} (call : RescanCallComesTo f (g, result)) :
    RescanMoved f (.step .startRescan) g
  | fed (items : List RescanItem) (ending : RescanEnd) (change : RescanJob → RescanJob)
      (same : ∀ job, ∃ producer, change job = { job with producer := producer } ∧
        (job.producer = .ended → producer = .ended)) :
    RescanMoved f (.step (.rescanFeed items ending)) { f with rescans := f.rescans.map change }
  | scripted (script : RescanScript) :
    RescanMoved f (.step (.rescanScript script))
      { f with wallet := { f.wallet with rescan := script } }
  | produced {job after : RescanJob} {e : Follower} (member : job ∈ f.rescans)
      (stepped : f.produce job = some (e, after)) :
    RescanMoved f (.produce job.number) { e with rescans := replaced e.rescans job.number after }
  | consumed {job after : RescanJob} {e : Follower} (member : job ∈ f.rescans)
      (reading : job.reading = true) (consumes : Consumes f job e after) :
    RescanMoved f (.consume job.number) { e with rescans := replaced e.rescans job.number after }

theorem rescanLink_ok {f : Follower} {link : Link} (free : f.rescanLink = .ok link) :
    f.loader.loaded = true ∧ f.wallet.link = some link ∧ f.rescanSlot.running = false := by
  unfold rescanLink at free
  split at free
  · contradiction
  · rename_i loaded
    split at free
    · contradiction
    · rename_i other linked
      split at free
      · contradiction
      · rename_i idle
        cases free
        exact ⟨by simpa using loaded, linked, by simpa using idle⟩

theorem feedJob_eq (items : List RescanItem) (ending : RescanEnd) (job : RescanJob) :
    Scenario.Step.feedJob items ending job =
      { job with producer := (Scenario.Step.feedJob items ending job).producer } := by
  unfold Scenario.Step.feedJob
  split <;> rfl

theorem feedJob_ended (items : List RescanItem) (ending : RescanEnd) {job : RescanJob}
    (ended : job.producer = .ended) : (Scenario.Step.feedJob items ending job).producer = .ended := by
  simp [Scenario.Step.feedJob, ended]

namespace Accounted

variable {f g : Follower}

theorem idle (accounted : f.Accounted) (free : f.rescanSlot.running = false) :
    f.rescanSlot = ⟨false, none⟩ ∧ f.live = [] := by
  rcases accounted.slot with none | ⟨attempt, busy, _⟩
  · exact none
  · simp [busy] at free

theorem held (accounted : f.Accounted) {job : RescanJob} (member : job ∈ f.rescans)
    (reading : job.reading = true) :
    f.rescanSlot = ⟨true, some (.rescan job.attempt)⟩ ∧ f.live = [job.attempt] := by
  have inside := mem_live member reading
  rcases accounted.slot with ⟨_, none⟩ | ⟨attempt, busy, one⟩
  · simp [none] at inside
  · have same : job.attempt = attempt := by simpa [one] using inside
    exact ⟨same ▸ busy, same ▸ one⟩

theorem unused (slot : f.rescanSlot = ⟨false, none⟩) (rescans : f.rescans = [])
    (token : f.session.token = none) (cancelled : f.cancelled = []) (history : f.history = []) :
    f.Accounted where
  slot := Or.inl ⟨slot, by simp [live, rescans]⟩
  jobs := by
    rw [rescans]
    exact ⟨List.nodup_nil, List.nodup_nil, by simp, by simp⟩
  session := by simp [token]
  cancelled := by simp [cancelled]
  outcomes _ _ := by rw [history]; rfl
  goesOn := by simp [rescans]

/-- The token in the slot is that of a rescan that was started. -/
theorem held_tried (accounted : f.Accounted) {attempt : Nat}
    (held : f.rescanSlot.token = some (.rescan attempt)) : attempt ≤ f.counts.rescanAttempts := by
  rcases accounted.slot with ⟨none, _⟩ | ⟨other, busy, one⟩
  · simp [none] at held
  · have same : other = attempt := by simpa [busy] using held
    have inside : attempt ∈ f.live := by simp [one, same]
    obtain ⟨job, among, rfl⟩ := List.mem_map.mp inside
    exact accounted.jobs.tried _ (List.mem_map_of_mem (List.mem_filter.mp among).1)

theorem sameScans (accounted : f.Accounted) (unscanned : SameScans f g) : g.Accounted where
  slot := by
    have live : g.live = f.live := by
      unfold Follower.live
      rw [unscanned.rescans]
    rw [live, unscanned.slot]
    exact accounted.slot
  jobs := by
    rw [unscanned.rescans, unscanned.count, unscanned.attempts]
    exact accounted.jobs
  session attempt held := accounted.session attempt (unscanned.token attempt held)
  cancelled := by
    intro attempt member
    obtain ⟨new, grown, held⟩ := unscanned.cancelled
    rw [grown] at member
    rw [unscanned.attempts]
    rcases List.mem_append.mp member with recent | before
    -- A session has no rescan's token, so what was cancelled since is the slot's.
    · rcases held attempt recent with session | slot
      · exact absurd session (accounted.session attempt)
      · exact accounted.held_tried slot
    · exact accounted.cancelled attempt before
  outcomes number late := by
    rw [unscanned.outcomes]
    exact accounted.outcomes number (unscanned.count ▸ late)
  goesOn job member reading := by
    rw [unscanned.outcomes]
    exact accounted.goesOn job (unscanned.rescans ▸ member) reading

/-- A job took a step in which its reader did not end. -/
theorem stepped (accounted : f.Accounted) {job after : RescanJob} (member : job ∈ f.rescans)
    (number : after.number = job.number) (attempt : after.attempt = job.attempt)
    (reading : after.reading = job.reading) :
    Accounted { f with rescans := replaced f.rescans job.number after } where
  slot := by
    have live : ({ f with rescans := replaced f.rescans job.number after } : Follower).live =
        f.live := live_replaced accounted.jobs.numbers member reading attempt
    rw [live]
    exact accounted.slot
  jobs := accounted.jobs.replaced member number attempt
  session := accounted.session
  cancelled := accounted.cancelled
  outcomes := accounted.outcomes
  goesOn other inside goesOn := by
    rcases mem_replaced inside with ⟨before, _⟩ | rfl
    · exact accounted.goesOn other before goesOn
    · rw [number]
      exact accounted.goesOn job member (reading ▸ goesOn)

/-- When a reader has ended, no other goes on. -/
theorem unread (accounted : f.Accounted) {job after : RescanJob} (member : job ∈ f.rescans)
    (reading : job.reading = true) (stopped : after.reading = false) :
    ∀ other ∈ replaced f.rescans job.number after, other.reading = false := by
  intro other inside
  rcases mem_replaced inside with ⟨before, elsewhere⟩ | rfl
  · cases goesOn : other.reading with
    | false => rfl
    | true =>
      have live := mem_live before goesOn
      rw [(accounted.held member reading).2] at live
      have same : other = job :=
        List.inj_on_of_nodup_map accounted.jobs.attempts before member (by simpa using live)
      exact absurd (congrArg RescanJob.number same) elsewhere
  · exact stopped

/-- The reader of a job ended and freed the slot, whosever it was: no other reader goes on. -/
theorem ended (accounted : f.Accounted) {job : RescanJob} (after : RescanJob)
    (member : job ∈ f.rescans) (reading : job.reading = true) (number : after.number = job.number)
    (attempt : after.attempt = job.attempt) (stopped : after.reading = false)
    (outcome : RescanOutcome) :
    Accounted { f.releaseRescan.note (.rescanEnded job.number outcome) with
      rescans := replaced f.rescans job.number after } where
  slot := by
    have unread := accounted.unread member reading stopped
    have none : (replaced f.rescans job.number after).filter RescanJob.reading = [] :=
      List.filter_eq_nil_iff.mpr fun other inside => by simp [unread other inside]
    exact Or.inl ⟨rfl, congrArg (List.map RescanJob.attempt) none⟩
  jobs := accounted.jobs.replaced member number attempt
  session := accounted.session
  cancelled := accounted.cancelled
  outcomes other late := by
    have given := accounted.jobs.numbered _ (List.mem_map_of_mem member)
    have elsewhere : job.number ≠ other := by
      have above : f.counts.rescans < other := late
      omega
    change rescanOutcomes other ([.rescanEnded job.number outcome] ++ f.history) = []
    rw [rescanOutcomes_append, accounted.outcomes other late]
    simp [rescanOutcomes, elsewhere]
  goesOn other inside goesOn := by
    have none := accounted.unread member reading stopped other inside
    rw [none] at goesOn
    contradiction

theorem fed (accounted : f.Accounted) {change : RescanJob → RescanJob}
    (same : ∀ job, ∃ producer, change job = { job with producer := producer } ∧
      (job.producer = .ended → producer = .ended)) :
    Accounted { f with rescans := f.rescans.map change } := by
  have keys (job : RescanJob) : (change job).number = job.number ∧
      (change job).attempt = job.attempt ∧ (change job).reading = job.reading := by
    obtain ⟨producer, other, _⟩ := same job
    rw [other]
    exact ⟨rfl, rfl, rfl⟩
  have live : ({ f with rescans := f.rescans.map change } : Follower).live = f.live :=
    live_map fun job _ => ⟨(keys job).2.2, (keys job).2.1⟩
  exact {
    slot := live.symm ▸ accounted.slot
    jobs := accounted.jobs.map fun job => ⟨(keys job).1, (keys job).2.1⟩
    session := accounted.session
    cancelled := accounted.cancelled
    outcomes := accounted.outcomes
    goesOn := by
      intro other inside goesOn
      obtain ⟨job, before, rfl⟩ := List.mem_map.mp inside
      have none := accounted.goesOn job before ((keys job).2.2.symm.trans goesOn)
      exact (congrArg (rescanOutcomes · f.history) (keys job).1).trans none }

theorem called (accounted : f.Accounted) {result : RescanStart}
    (call : RescanCallComesTo f (g, result)) : g.Accounted := by
  cases call with
  | barred bars => exact accounted
  | @unmade link free text =>
    obtain ⟨_, none⟩ := accounted.idle (rescanLink_ok free).2.2
    exact {
      slot := Or.inl ⟨rfl, none⟩
      jobs := { accounted.jobs with
        tried := fun attempt inside => Nat.le_succ_of_le (accounted.jobs.tried attempt inside) }
      session := accounted.session
      cancelled := fun attempt inside => Nat.le_succ_of_le (accounted.cancelled attempt inside)
      outcomes := accounted.outcomes
      goesOn := accounted.goesOn }
  | @started link free =>
    -- The slot was free, so the new reader is the only one.
    obtain ⟨_, none⟩ := accounted.idle (rescanLink_ok free).2.2
    let attempt := f.counts.rescanAttempts + 1
    let job : RescanJob := ⟨f.counts.rescans + 1, attempt, link, .ready, [], Tracker.new 0, true⟩
    exact {
      slot := by
        refine Or.inr ⟨attempt, rfl, ?_⟩
        have split : ((f.rescans ++ [job]).filter RescanJob.reading).map RescanJob.attempt =
            f.live ++ [attempt] := by
          rw [List.filter_append, List.map_append]
          rfl
        rw [none] at split
        exact split
      jobs := accounted.jobs.append (rfl : job.number = _) rfl
      session := accounted.session
      cancelled := fun attempt inside => Nat.le_succ_of_le (accounted.cancelled attempt inside)
      outcomes := fun number late => accounted.outcomes number (Nat.lt_of_succ_lt late)
      goesOn := by
        intro other inside goesOn
        rcases List.mem_append.mp inside with before | new
        · exact accounted.goesOn other before goesOn
        · have same : other = job := by simpa using new
          rw [same]
          exact accounted.outcomes _ (Nat.lt_succ_self _) }

theorem rescanMoved {move : Move} (accounted : f.Accounted) (made : f.move? move = some g) :
    RescanMoved f move g := by
  by_cases scans : move.Scans
  · cases move with
    | step step =>
      cases step with
      | startRescan =>
        cases made
        exact .called (comesTo_startRescan f)
      | rescanScript script =>
        cases made
        exact .scripted script
      | rescanFeed items ending =>
        cases made
        simp only [Scenario.Step.perform, Scenario.Step.flagOf, Scenario.Step.feed]
        split
        · have same : f.rescans.map id = f.rescans := List.map_id f.rescans
          have fed := RescanMoved.fed (f := f) items ending id fun job => ⟨job.producer, rfl, id⟩
          rwa [same] at fed
        · refine .fed items ending _ fun job => ?_
          split
          · exact ⟨_, feedJob_eq items ending job, feedJob_ended items ending⟩
          · exact ⟨job.producer, rfl, id⟩
      | _ => exact scans.elim
    | produce number =>
      obtain ⟨job, member, rfl, e, after, stepped, rfl⟩ :=
        rescanTurn_cases (made : f.rescanTurn produce number = some g)
      exact .produced member stepped
    | consume number =>
      obtain ⟨job, member, rfl, e, after, stepped, rfl⟩ :=
        rescanTurn_cases (made : f.rescanTurn consume number = some g)
      have reading : job.reading = true := by
        unfold consume at stepped
        split at stepped
        · contradiction
        · rename_i goesOn
          simpa using goesOn
      -- A reader that fails cancels its own token: the slot's, by the books.
      have held := (accounted.held member reading).1
      exact .consumed member reading (consumes_consume (congrArg RescanSlot.token held) stepped)
    | _ => exact scans.elim
  · exact .spared scans (sameScans_of_move made scans)

theorem moved {move : Move} (accounted : f.Accounted) (made : f.move? move = some g) :
    g.Accounted := by
  cases accounted.rescanMoved made with
  | spared other unscanned => exact accounted.sameScans unscanned
  | called call => exact accounted.called call
  | fed items ending change same => exact accounted.fed same
  | scripted script => exact { accounted with }
  | produced member stepped =>
    obtain ⟨untold, _, produces⟩ := produces_produce stepped
    have before := accounted.sameScans untold.toSameScans
    cases produces with
    | turned producer => exact before.stepped (untold.rescans ▸ member) rfl rfl rfl
    | sent producer report => exact before.stepped (untold.rescans ▸ member) rfl rfl rfl
  | @consumed job after e member reading consumes =>
    cases consumes with
    | took channel scanned still tells =>
      exact (accounted.sameScans still).stepped (still.rescans ▸ member) rfl rfl rfl
    | @ended outcome event tracker told closes still tells =>
      have inside : job ∈ told.rescans := still.rescans ▸ member
      exact (accounted.sameScans still).ended
        { job with channel := [], reading := false, tracker := tracker } inside reading rfl rfl rfl
        outcome

end Accounted

end Follower

namespace Course

theorem Initial.accounted {c : Course} (initial : c.Initial) : c.follower.Accounted := by
  have fresh := initial.fresh
  have token : c.follower.session.token = none := by rw [fresh.session]
  exact .unused fresh.rescanSlot fresh.rescans token fresh.cancelled fresh.history

theorem Ran.accounted {allowed : Follower → Move → Follower → Prop} {c d : Course}
    (ran : Ran allowed c d) (accounted : c.follower.Accounted) : d.follower.Accounted := by
  induction ran with
  | start => exact accounted
  | move before made may ih => exact ih.moved made

theorem Reached.accounted {c : Course} (reached : c.Reached) : c.follower.Accounted := by
  obtain ⟨first, initial, ran⟩ := reached
  exact ran.accounted initial.accounted

end Course

end ChainFollower

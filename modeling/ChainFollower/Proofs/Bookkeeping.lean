import ChainFollower.Proofs.Accounted

/-! The books of rescans, read from outside: what they bar, which rescan a cancel reaches, and how
the slot stands when an outcome can be seen. -/
namespace ChainFollower

namespace Follower

structure Bookkept (f : Follower) : Prop where
  running : f.rescanSlot.running = true ↔ (f.rescans.filter RescanJob.reading).length = 1
  single : (f.rescans.filter RescanJob.reading).length ≤ 1
  token : f.rescanSlot.running = true ↔ f.rescanSlot.token.isSome = true
  own : ∀ job ∈ f.rescans, job.reading = true →
    f.rescanSlot.token = some (.rescan job.attempt) ∧
      ∀ other ∈ f.rescans, other.attempt = job.attempt → other = job
  bars : f.loader.loaded = true → f.wallet.link.isSome = true →
    (f.startRescan.2 = .stopped (.failed .rescanInProgress) ↔
      ∃ job ∈ f.rescans, job.reading = true)
  refused : ∀ g e, f.startRescan = (g, .stopped (.failed e)) → g = f
  /-- No cancel before its start reaches a rescan. -/
  fresh : ∀ g number, f.startRescan = (g, .started number) →
    ∃ job ∈ g.rescans, job.number = number ∧ job.reading = true ∧
      .rescan job.attempt ∉ g.cancelled
  /-- A cancel reaches the rescan that goes on, also one from a listener that is being told. -/
  cancelled : ∀ job ∈ f.rescans, job.reading = true → ∀ sent g, Told sent f g →
    .rescan job.attempt ∈ g.cancelRescan.cancelled
  spared : ∀ token ∈ f.cancelRescan.cancelled, token ∈ f.cancelled ∨
    ∃ job ∈ f.rescans, job.reading = true ∧ token = .rescan job.attempt
  stopped : ∀ number, rescanOutcomes number f.history ≠ [] →
    ∀ job ∈ f.rescans, job.number = number → job.reading = false
  /-- The slot is free when an outcome is seen first. -/
  seen : ∀ move g number, f.move? move = some g →
    rescanOutcomes number g.history ≠ rescanOutcomes number f.history →
    g.rescanSlot = ⟨false, none⟩

theorem startRescan_refused {f g : Follower} {e : SyncError}
    (refused : f.startRescan = (g, .stopped (.failed e))) : g = f := by
  have call := comesTo_startRescan f
  rw [refused] at call
  cases call
  rfl

/-- A loaded wallet with a link is refused a rescan only for one that is running. -/
theorem startRescan_in_progress_iff {f : Follower} (loaded : f.loader.loaded = true)
    (linked : f.wallet.link.isSome = true) :
    f.startRescan.2 = .stopped (.failed .rescanInProgress) ↔ f.rescanSlot.running = true := by
  obtain ⟨link, held⟩ := Option.isSome_iff_exists.mp linked
  have answers : f.rescanLink =
      if f.rescanSlot.running then .error .rescanInProgress else .ok link := by
    simp [rescanLink, loaded, held]
  constructor
  · intro refused
    have call := comesTo_startRescan f
    revert call refused
    generalize f.startRescan = start
    intro refused call
    cases call with
    | barred bars =>
      cases running : f.rescanSlot.running with
      | true => rfl
      | false => simp [answers, running] at bars
    | unmade free text => simp at refused
    | started free => simp at refused
  · intro running
    simp [startRescan, answers, running]

namespace Accounted

variable {f g : Follower}

theorem running_iff (accounted : f.Accounted) :
    f.rescanSlot.running = true ↔ (f.rescans.filter RescanJob.reading).length = 1 := by
  have count : (f.rescans.filter RescanJob.reading).length = f.live.length := by simp [live]
  rw [count]
  rcases accounted.slot with ⟨slot, none⟩ | ⟨attempt, slot, one⟩
  · simp [slot, none]
  · simp [slot, one]

theorem reader_iff (accounted : f.Accounted) :
    f.rescanSlot.running = true ↔ ∃ job ∈ f.rescans, job.reading = true := by
  constructor
  · intro running
    obtain ⟨job, one⟩ := List.length_eq_one_iff.mp (accounted.running_iff.mp running)
    have among : job ∈ f.rescans.filter RescanJob.reading := by simp [one]
    exact ⟨job, List.mem_filter.mp among⟩
  · rintro ⟨job, member, reading⟩
    rw [(accounted.held member reading).1]

theorem fresh (accounted : f.Accounted) {number : Nat}
    (start : f.startRescan = (g, .started number)) :
    ∃ job ∈ g.rescans, job.number = number ∧ job.reading = true ∧
      .rescan job.attempt ∉ g.cancelled := by
  obtain ⟨_, _, _, cancelled, link, member⟩ := startRescan_started start
  refine ⟨_, member, rfl, rfl, ?_⟩
  rw [cancelled]
  intro before
  exact Nat.not_succ_le_self _ (accounted.cancelled _ before)

theorem spared (accounted : f.Accounted) {token : Token}
    (member : token ∈ f.cancelRescan.cancelled) : token ∈ f.cancelled ∨
      ∃ job ∈ f.rescans, job.reading = true ∧ token = .rescan job.attempt := by
  rcases accounted.slot with ⟨slot, _⟩ | ⟨attempt, slot, one⟩
  · simp only [cancelRescan, slot] at member
    exact Or.inl member
  · simp only [cancelRescan, slot] at member
    rcases List.mem_cons.mp member with rfl | before
    · have among : attempt ∈ f.live := by simp [one]
      obtain ⟨job, reader, rfl⟩ := List.mem_map.mp among
      obtain ⟨inside, reading⟩ := List.mem_filter.mp reader
      exact Or.inr ⟨job, inside, reading, rfl⟩
    · exact Or.inl before

theorem seen (accounted : f.Accounted) {move : Move} {number : Nat}
    (made : f.move? move = some g)
    (new : rescanOutcomes number g.history ≠ rescanOutcomes number f.history) :
    g.rescanSlot = ⟨false, none⟩ := by
  cases accounted.rescanMoved made with
  | spared other unscanned => exact absurd (unscanned.outcomes number) new
  | called call =>
    cases call with
    | barred bars => exact absurd rfl new
    | unmade free text => exact absurd rfl new
    | started free => exact absurd rfl new
  | fed items ending change same => exact absurd rfl new
  | scripted script => exact absurd rfl new
  | produced member stepped => exact absurd ((produces_produce stepped).1.outcomes number) new
  | consumed member reading consumes =>
    cases consumes with
    | took channel scanned still tells => exact absurd (still.outcomes number) new
    | ended closes still tells => rfl

end Accounted

end Follower

namespace Course

theorem rescan_bookkeeping {c : Course} (reached : c.Reached) : c.follower.Bookkept := by
  have accounted := reached.accounted
  exact {
    running := accounted.running_iff
    single := by
      have count : (c.follower.rescans.filter RescanJob.reading).length =
          c.follower.live.length := by simp [Follower.live]
      rw [count]
      rcases accounted.slot with ⟨_, none⟩ | ⟨attempt, _, one⟩
      · simp [none]
      · simp [one]
    token := by
      rcases accounted.slot with ⟨slot, _⟩ | ⟨attempt, slot, _⟩
      · simp [slot]
      · simp [slot]
    own := by
      intro job member reading
      refine ⟨congrArg RescanSlot.token (accounted.held member reading).1, ?_⟩
      intro other inside same
      exact List.inj_on_of_nodup_map accounted.jobs.attempts inside member same
    bars := by
      intro loaded linked
      exact (Follower.startRescan_in_progress_iff loaded linked).trans accounted.reader_iff
    refused := fun _ _ => Follower.startRescan_refused
    fresh := fun _ _ => accounted.fresh
    cancelled := by
      intro job member reading sent g told
      have slot : g.rescanSlot = ⟨true, some (.rescan job.attempt)⟩ :=
        (Follower.SameScans.of_told told).slot.trans (accounted.held member reading).1
      simp [Follower.cancelRescan, slot, Follower.cancel]
    spared := fun _ => accounted.spared
    stopped := by
      intro number ended job member named
      cases reading : job.reading with
      | false => rfl
      | true => exact absurd (named ▸ accounted.goesOn job member reading) ended
    seen := fun _ _ _ => accounted.seen }

/-- The wallet of the standard follower is given a link, and a rescan starts. -/
theorem rescan_bookkeeping_started :
    ∃ c : Course, c.Reached ∧ c.follower.Bookkept ∧
      c.follower.rescanSlot = ⟨true, some (.rescan 1)⟩ ∧
      c.follower.rescans.map RescanJob.reading = [true] := by
  have attached : Ran (fun _ _ _ => True) standard _ :=
    .move .start (rfl : standard.follower.move? (.step (.attach (some (.foreign "node")))) = some _)
      trivial
  have started : Ran (fun _ _ _ => True) standard _ :=
    .move attached (rfl : Follower.move? _ (.step .startRescan) = some _) trivial
  have reached : Reached _ := ⟨standard, standard_initial, started⟩
  exact ⟨_, reached, rescan_bookkeeping reached, rfl, rfl⟩

end Course

end ChainFollower

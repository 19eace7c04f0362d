import ChainFollower.Proofs.Moves

/-! Runs: any moves one after the other, from a follower that was just set up. Beside the follower
stand the runs that were launched and whose backend has not been taken away, and the ways in which
session and tasks can stand are kept by every move. -/
namespace ChainFollower

structure Follower.Fresh (f : Follower) : Prop where
  session : f.session = ⟨.idle, none, none⟩
  cache : f.cache = none
  rescanSlot : f.rescanSlot = ⟨false, none⟩
  shutdown : f.shutdown = false
  cancelled : f.cancelled = []
  starts : f.starts = []
  runs : f.runs = []
  rescans : f.rescans = []
  history : f.history = []

theorem Scenario.Setup.fresh {setup : Setup} {f : Follower} (accepted : setup.follower = .ok f) :
    f.Fresh := by
  unfold Setup.follower at accepted
  split at accepted
  · contradiction
  · rw [← Except.ok.inj accepted]
    exact ⟨rfl, rfl, rfl, rfl, rfl, rfl, rfl, rfl, rfl⟩

structure Course where
  follower : Follower
  /-- The runs that were launched and did not come back, as they were launched. One that panicked
  stays, as nothing takes its backend away. -/
  attached : List RunLoop

namespace Course

/-- Takes the run away that came back, and adds those that were launched. -/
def next (c : Course) (move : Move) (g : Follower) : Course where
  follower := g
  attached :=
    (match move.returned? with
    | some number => c.attached.filter (fun run => run.number != number)
    | none => c.attached) ++
    (g.runs.filter (fun run => c.follower.counts.syncs < run.number)).map RunLoop.launched

inductive Ran (allowed : Follower → Move → Follower → Prop) (c : Course) : Course → Prop where
  | start : Ran allowed c c
  | move {d : Course} {move : Move} {g : Follower} (before : Ran allowed c d)
      (made : d.follower.move? move = some g) (may : allowed d.follower move g) :
    Ran allowed c (d.next move g)

def Initial (c : Course) : Prop :=
  (∃ setup : Scenario.Setup, setup.follower = .ok c.follower) ∧ c.attached = []

def standard : Course := ⟨Scenario.Setup.standard.follower.toOption.get rfl, []⟩

theorem standard_initial : standard.Initial := ⟨⟨Scenario.Setup.standard, rfl⟩, rfl⟩

def Reached (c : Course) : Prop := ∃ first, first.Initial ∧ Ran (fun _ _ _ => True) first c

/-- Moves lead here in none of whose states giving or taking a link is set up to panic. -/
def CalmlyReached (c : Course) : Prop :=
  ∃ first, first.Initial ∧ first.follower.Calm ∧ Ran (fun _ _ g => g.Calm) first c

theorem Ran.mono {narrow wide : Follower → Move → Follower → Prop} {c d : Course}
    (ran : Ran narrow c d) (wider : ∀ f move g, narrow f move g → wide f move g) :
    Ran wide c d := by
  induction ran with
  | start => exact .start
  | move before made may ih => exact .move ih made (wider _ _ _ may)

theorem Ran.trans {allowed : Follower → Move → Follower → Prop} {c d e : Course}
    (before : Ran allowed c d) (after : Ran allowed d e) : Ran allowed c e := by
  induction after with
  | start => exact before
  | move _ made may ih => exact .move ih made may

def after? : Course → List Move → Option Course
  | c, [] => some c
  | c, move :: rest => (c.follower.move? move).bind (fun g => after? (c.next move g) rest)

theorem Ran.of_after {c d : Course} {moves : List Move} (made : c.after? moves = some d) :
    Ran (fun _ _ _ => True) c d := by
  induction moves generalizing c with
  | nil =>
    cases made
    exact .start
  | cons move rest ih =>
    obtain ⟨g, first, others⟩ := Option.bind_eq_some_iff.mp made
    have taken : Ran (fun _ _ _ => True) c (c.next move g) := .move .start first trivial
    exact taken.trans (ih others)

theorem Reached.later {c d : Course} {moves : List Move} (reached : c.Reached)
    (made : c.after? moves = some d) : d.Reached := by
  obtain ⟨first, initial, ran⟩ := reached
  exact ⟨first, initial, ran.trans (.of_after made)⟩

theorem CalmlyReached.reached {c : Course} (calm : c.CalmlyReached) : c.Reached := by
  obtain ⟨first, initial, _, ran⟩ := calm
  exact ⟨first, initial, ran.mono fun _ _ _ _ => trivial⟩

/-- How session and tasks stand, whatever panics. -/
inductive Sound (c : Course) : Prop where
  | vacant (inactive : c.follower.session.state.isActive = false)
      (backend : c.follower.session.backend = none) (token : c.follower.session.token = none)
      (starts : c.follower.starts = []) (runs : c.follower.runs = []) (attached : c.attached = [])
  | opening (state : c.follower.session.state = .starting)
      (backend : c.follower.session.backend = none)
      (pending : c.follower.starts = [] ∨ ∃ start, c.follower.starts = [start] ∧
        c.follower.session.token = some (.start start.attempt))
      (runs : c.follower.runs = []) (attached : c.attached = [])
  | held (run : RunLoop) (state : c.follower.session.state.Attached)
      (backend : c.follower.session.backend = some run.backend)
      (token : c.follower.session.token = some (.start run.attempt))
      (starts : c.follower.starts = [])
      (runs : c.follower.runs.map RunLoop.launched = [] ∨
        c.follower.runs.map RunLoop.launched = [run])
      (attached : c.attached = [run]) (numbered : run.number ≤ c.follower.counts.syncs)

namespace Sound

variable {c : Course}

/-- A start that is not barred finds nothing under way. -/
theorem free (sound : c.Sound) (free : c.follower.startBarrier? = none) :
    c.follower.session.backend = none ∧ c.follower.starts = [] ∧ c.follower.runs = [] ∧
      c.attached = [] := by
  obtain ⟨_, inactive, _⟩ := Follower.startBarrier_free free
  cases sound with
  | vacant _ backend token starts runs attached => exact ⟨backend, starts, runs, attached⟩
  | opening state => simp [state, SyncState.isActive] at inactive
  | held run state =>
    have active := state.active
    rw [inactive] at active
    contradiction

/-- A start that waits is the only task of the sync, and the slot has its token. -/
theorem pending (sound : c.Sound) {start : PendingStart} (member : start ∈ c.follower.starts) :
    c.follower.session.state = .starting ∧ c.follower.session.backend = none ∧
      c.follower.starts = [start] ∧
      c.follower.session.token = some (.start start.attempt) ∧ c.follower.runs = [] ∧
      c.attached = [] := by
  cases sound with
  | vacant _ _ _ starts => simp [starts] at member
  | opening state backend pending runs attached =>
    rcases pending with none | ⟨other, starts, token⟩
    · simp [none] at member
    · have same : start = other := by simpa [starts] using member
      subst same
      exact ⟨state, backend, starts, token, runs, attached⟩
  | held run state backend token starts => simp [starts] at member

/-- A run that goes on is the only task of the sync, and the slot has its backend and token. -/
theorem running (sound : c.Sound) {run : RunLoop} (member : run ∈ c.follower.runs) :
    c.follower.session.state.Attached ∧ c.follower.session.backend = some run.backend ∧
      c.follower.session.token = some (.start run.attempt) ∧ c.follower.starts = [] ∧
      c.follower.runs = [run] ∧ c.attached = [run.launched] ∧
      run.number ≤ c.follower.counts.syncs := by
  cases sound with
  | vacant _ _ _ _ runs => simp [runs] at member
  | opening _ _ _ runs => simp [runs] at member
  | held other state backend token starts runs attached numbered =>
    rcases runs with none | one
    · simp at none
      simp [none] at member
    · obtain ⟨only, alone, rfl⟩ := List.map_eq_singleton_iff.mp one
      have same : run = only := by simpa [alone] using member
      subst same
      exact ⟨state, backend, token, starts, alone, attached, numbered⟩

/-- The runs of `g` that are no others than those of `f` were launched before. -/
theorem runs_old (sound : c.Sound) {g : Follower}
    (runs : g.runs.map RunLoop.launched = c.follower.runs.map RunLoop.launched) :
    ∀ run ∈ g.runs, run.number ≤ c.follower.counts.syncs := by
  intro run member
  have inMap : run.launched ∈ c.follower.runs.map RunLoop.launched :=
    runs ▸ List.mem_map_of_mem member
  obtain ⟨other, before, same⟩ := List.mem_map.mp inMap
  have number : other.launched.number = run.launched.number := congrArg RunLoop.number same
  obtain ⟨_, _, _, _, _, _, numbered⟩ := sound.running before
  exact Nat.le_trans (Nat.le_of_eq number.symm) numbered

end Sound

theorem next_attached {c : Course} {move : Move} {g : Follower} (goesOn : move.returned? = none)
    (old : ∀ run ∈ g.runs, run.number ≤ c.follower.counts.syncs) :
    (c.next move g).attached = c.attached := by
  have noNew : g.runs.filter (fun run => c.follower.counts.syncs < run.number) = [] := by
    rw [List.filter_eq_nil_iff]
    intro run member
    simpa using old run member
  simp only [next, goesOn, noNew, List.map_nil, List.append_nil]

namespace Sound

variable {c : Course} {move : Move} {g : Follower}

theorem stays (sound : c.Sound) (goesOn : move.returned? = none)
    (stays : c.follower.SameSessions g) : (c.next move g).Sound := by
  -- No run is new, so those that are attached stay the same ones.
  have kept : (c.next move g).attached = c.attached :=
    next_attached goesOn (sound.runs_old stays.runs)
  cases sound with
  | vacant inactive backend token starts runs attached =>
    have same : g.session.state = c.follower.session.state := by
      rcases stays.state with same | ⟨before, _⟩
      · exact same
      · have active := before.active
        rw [inactive] at active
        contradiction
    have noRuns : g.runs = [] := by simpa [runs] using stays.runs
    exact .vacant (same ▸ inactive) (stays.backend.trans backend) (stays.token.trans token)
      (stays.starts.trans starts) noRuns (kept.trans attached)
  | opening state backend pending runs attached =>
    have same : g.session.state = .starting := by
      rcases stays.state with same | ⟨before, _⟩
      · exact same.trans state
      · rcases before with other | other <;> rw [state] at other <;> contradiction
    have noRuns : g.runs = [] := by simpa [runs] using stays.runs
    refine .opening same (stays.backend.trans backend) ?_ noRuns (kept.trans attached)
    rcases pending with none | ⟨start, one, token⟩
    · exact Or.inl (stays.starts.trans none)
    · exact Or.inr ⟨start, stays.starts.trans one, stays.token.trans token⟩
  | held run state backend token starts runs attached numbered =>
    have still : g.session.state.Attached := by
      rcases stays.state with same | ⟨_, after⟩
      · exact same ▸ state
      · exact after
    refine .held run still (stays.backend.trans backend) (stays.token.trans token)
      (stays.starts.trans starts) ?_ (kept.trans attached) (stays.syncs ▸ numbered)
    rcases runs with none | one
    · exact Or.inl (stays.runs.trans none)
    · exact Or.inr (stays.runs.trans one)

/-- A start that was launched is the only one and its run is; if the launch panicked, neither is
there any more. -/
theorem launched {attempt : Nat} {backend : Backend} {f h : Follower} {result : Except Stop Nat}
    (launched : f.Launched attempt backend (result, g))
    (session : f.session = ⟨.starting, none, some (.start attempt)⟩) (starts : f.starts = [])
    (runs : f.runs = []) (syncs : f.counts.syncs = c.follower.counts.syncs)
    (attached : c.attached = []) (goesOn : move.returned? = none)
    (standing : h.standing = g.standing) : (c.next move h).Sound := by
  have after := congrArg Follower.Standing.session standing
  have runsAfter := congrArg Follower.Standing.runs standing
  have startsAfter := congrArg Follower.Standing.starts standing
  cases launched with
  | @done g sync =>
    have held : g.session = ⟨.running, some backend, some (.start attempt)⟩ := by
      have attaching : (f.attached backend).session = ⟨.running, some backend, f.session.token⟩ :=
        rfl
      rw [sync.session, attaching, session]
    have number : g.counts.syncs = c.follower.counts.syncs := sync.syncs.trans syncs
    have one : h.runs = [⟨c.follower.counts.syncs + 1, attempt, backend, false⟩] := by
      have before : g.runs = [] := sync.runs.trans runs
      have grown : h.runs = g.runs ++ [⟨g.counts.syncs + 1, attempt, backend, false⟩] := runsAfter
      rw [grown, before, number]
      rfl
    have session : h.session = _ := Eq.trans after held
    refine .held ⟨c.follower.counts.syncs + 1, attempt, backend, false⟩ ?_ ?_ ?_ ?_ ?_ ?_ ?_
    · exact Or.inl (congrArg Session.state session)
    · exact congrArg Session.backend session
    · exact congrArg Session.token session
    · exact startsAfter.trans (sync.starts.trans starts)
    · exact Or.inr (by simp [next, one, RunLoop.launched])
    · simp [next, one, goesOn, attached, RunLoop.launched]
    · have count : h.counts.syncs = g.counts.syncs + 1 := congrArg Follower.Standing.syncs standing
      simp [next, count, number]
  | panicked breaks stays links =>
    -- The task was never made: the session stays in its start, and nobody is left to end it.
    have before : g.runs = [] := by simpa [runs] using stays.runs
    have noRuns : h.runs = [] := runsAfter.trans before
    refine .opening ?_ ?_ (Or.inl ?_) noRuns ?_
    · have state : g.session.state = .starting := by
        rcases stays.state with same | ⟨before, _⟩
        · rw [same, session]
        · rw [session] at before
          rcases before with other | other <;> contradiction
      exact (congrArg Session.state after).trans state
    · exact (congrArg Session.backend after).trans (stays.backend.trans (by rw [session]))
    · exact startsAfter.trans (stays.starts.trans starts)
    · exact (next_attached goesOn (by simp [noRuns])).trans attached

theorem aborted {f h : Follower} (standing : h.standing = f.abortStart.standing)
    (starts : f.starts = []) (runs : f.runs = []) (attached : c.attached = [])
    (goesOn : move.returned? = none) : (c.next move h).Sound := by
  rw [Follower.abortStart_standing] at standing
  have session : h.session = ⟨.idle, none, none⟩ := congrArg Follower.Standing.session standing
  have noStarts : h.starts = [] := (congrArg Follower.Standing.starts standing).trans starts
  have noRuns : h.runs = [] := (congrArg Follower.Standing.runs standing).trans runs
  refine .vacant (congrArg (fun s => s.state.isActive) session) (congrArg Session.backend session)
    (congrArg Session.token session) noStarts noRuns ?_
  exact (next_attached goesOn (by simp [noRuns])).trans attached

theorem entered_session {f : Follower} (config : BackendConfig)
    (backend : f.session.backend = none) :
    (f.entered config).session = ⟨.starting, none, some (.start (f.counts.startAttempts + 1))⟩ := by
  have entering : (f.entered config).session =
    ⟨.starting, f.session.backend, some (.start (f.counts.startAttempts + 1))⟩ := rfl
  rw [entering, backend]

theorem started (sound : c.Sound) {config : BackendConfig} {result : Except Stop Started}
    (start : c.follower.StartComesTo config (result, g)) :
    (c.next (.step (.start config)) g).Sound := by
  cases start with
  | barred bars => exact sound.stays rfl (Follower.SameSessions.refl _)
  | stopped free sync late =>
    obtain ⟨_, starts, runs, attached⟩ := sound.free free
    exact aborted rfl (sync.starts.trans starts) (sync.runs.trans runs) attached rfl
  | @waiting client server g free sync =>
    obtain ⟨backend, starts, runs, attached⟩ := sound.free free
    have session := sync.session.trans (entered_session config backend)
    have noStarts : g.starts = [] := sync.starts.trans starts
    have noRuns : g.runs = [] := sync.runs.trans runs
    refine .opening (congrArg Session.state session) (congrArg Session.backend session)
      (Or.inr ⟨⟨_, client, server⟩, ?_, congrArg Session.token session⟩) noRuns ?_
    · simp [next, noStarts]
    · exact (next_attached rfl (by simp [noRuns])).trans attached
  | launched free sync launch =>
    obtain ⟨backend, starts, runs, attached⟩ := sound.free free
    exact launched launch (sync.session.trans (entered_session config backend))
      (sync.starts.trans starts) (sync.runs.trans runs) sync.syncs attached rfl rfl
  | panicked other free sync launch =>
    obtain ⟨backend, starts, runs, attached⟩ := sound.free free
    exact launched launch (sync.session.trans (entered_session config backend))
      (sync.starts.trans starts) (sync.runs.trans runs) sync.syncs attached rfl rfl

theorem resumed (sound : c.Sound) {start : PendingStart} {rest : List PendingStart}
    {reply : Reply ConnectError} {result : Except Stop Nat} {outcome : StartOutcome}
    (pending : start ∈ c.follower.starts)
    (others : rest = c.follower.starts.filter (fun other => other.attempt != start.attempt))
    (resume : Follower.ResumeComesTo start reply { c.follower with starts := rest } (result, g)) :
    (c.next (.connection start.attempt reply) (g.note (.startEnded outcome))).Sound := by
  obtain ⟨state, backend, starts, token, runs, attached⟩ := sound.pending pending
  have noStarts : rest = [] := by simp [others, starts]
  cases resume with
  | stopped sync late =>
    exact aborted rfl (sync.starts.trans noStarts) (sync.runs.trans runs) attached rfl
  | @built other f _ accepted sync launch =>
    have session : f.session = ⟨.starting, none, some (.start start.attempt)⟩ := by
      rw [sync.session, ← state, ← backend, ← token]
    exact launched launch session (sync.starts.trans noStarts) (sync.runs.trans runs)
      sync.syncs attached rfl rfl

theorem abandoned (sound : c.Sound) {start : PendingStart} {rest : List PendingStart}
    (pending : c.follower.starts = start :: rest) :
    (c.next (.step .abandonStart)
      ({ c.follower with starts := rest }.abortStart.note (.startEnded .abandoned))).Sound := by
  obtain ⟨_, _, starts, _, runs, attached⟩ := sound.pending (by simp [pending] : start ∈ _)
  have noStarts : rest = [] := by simpa [starts] using pending.symm
  have spared : Follower.standing ({ c.follower with starts := rest }.abortStart.note
    (.startEnded .abandoned)) = { c.follower with starts := rest }.abortStart.standing := rfl
  exact aborted spared noStarts runs attached rfl

theorem panicked (sound : c.Sound) {run : RunLoop} (text : String)
    (member : run ∈ c.follower.runs) (happening : Happening) :
    (c.next (.runEnds run.number (.panic text))
      ((c.follower.withoutRun run).note happening)).Sound := by
  obtain ⟨state, backend, token, starts, runs, attached, numbered⟩ := sound.running member
  have noRuns : (c.follower.withoutRun run).runs = [] := by simp [Follower.withoutRun, runs]
  refine .held run.launched state backend token starts (Or.inl ?_) ?_ numbered
  · exact congrArg (List.map RunLoop.launched) noRuns
  · refine (next_attached rfl ?_).trans attached
    intro other among
    have none : other ∈ (c.follower.withoutRun run).runs := among
    simp [noRuns] at none

theorem returned (sound : c.Sound) {run : RunLoop} {result : Option RunError}
    (member : run ∈ c.follower.runs) (ended : c.follower.RunReturned run g) :
    (c.next (.runEnds run.number (RunError.reply result)) g).Sound := by
  obtain ⟨_, _, _, starts, runs, attached, _⟩ := sound.running member
  have noRuns : g.runs = [] := by
    simpa [Follower.withoutRun, runs] using ended.runs
  refine .vacant ended.inactive ended.backend ended.token (ended.starts.trans starts) noRuns ?_
  simp [next, Move.returned_reply, attached, noRuns, RunLoop.launched]

/-- Every move keeps the way in which session and tasks stand. -/
theorem moved (sound : c.Sound) (made : c.follower.move? move = some g) :
    (c.next move g).Sound := by
  cases Follower.moved_of_move made with
  | stays stays goesOn => exact sound.stays goesOn stays
  | started config start => exact sound.started start
  | resumed pending others resume => exact sound.resumed pending others resume
  | abandoned pending => exact sound.abandoned pending
  | panicked text member begun => exact sound.panicked text member _
  | returned result member begun ended => exact sound.returned member ended

end Sound

theorem Initial.fresh {c : Course} (initial : c.Initial) : c.follower.Fresh := by
  obtain ⟨⟨setup, accepted⟩, _⟩ := initial
  exact Scenario.Setup.fresh accepted

theorem Initial.sound {c : Course} (initial : c.Initial) : c.Sound := by
  have fresh := initial.fresh
  refine .vacant ?_ ?_ ?_ fresh.starts fresh.runs initial.2
  · rw [fresh.session]
    rfl
  · rw [fresh.session]
  · rw [fresh.session]

theorem Ran.sound {allowed : Follower → Move → Follower → Prop} {c d : Course}
    (ran : Ran allowed c d) (sound : c.Sound) : d.Sound := by
  induction ran with
  | start => exact sound
  | move before made may ih => exact ih.moved made

theorem Reached.sound {c : Course} (reached : c.Reached) : c.Sound := by
  obtain ⟨first, initial, ran⟩ := reached
  exact ran.sound initial.sound

end Course

end ChainFollower

import ChainFollower.Proofs.Course
import Mathlib.Logic.ExistsUnique

/-! As long as giving and taking links does not panic, the session is in one of three phases between
moves, and it starts or runs one backend at a time. -/
namespace ChainFollower.Course

/-- Nothing is under way, a start waits for its connection, or a backend is attached. -/
inductive Phase where
  | vacant
  | opening
  | held

def InPhase (c : Course) : Phase → Prop
  | .vacant =>
    c.follower.session = ⟨.idle, none, none⟩ ∧ c.follower.starts = [] ∧ c.attached = []
  | .opening =>
    ∃ start, c.follower.session = ⟨.starting, none, some (.start start.attempt)⟩ ∧
      c.follower.starts = [start] ∧ c.attached = []
  | .held =>
    ∃ run state, (state = .running ∨ state = .synced) ∧
      c.follower.session = ⟨state, some run.backend, some (.start run.attempt)⟩ ∧
      c.follower.starts = [] ∧ c.attached = [run]

theorem InPhase.unique {c : Course} {phase other : Phase} (one : c.InPhase phase)
    (two : c.InPhase other) : phase = other := by
  cases phase with
  | vacant =>
    obtain ⟨session, starts, attached⟩ := one
    cases other with
    | vacant => rfl
    | opening =>
      obtain ⟨start, _, waits, _⟩ := two
      simp [starts] at waits
    | held =>
      obtain ⟨run, state, _, _, _, holds⟩ := two
      simp [attached] at holds
  | opening =>
    obtain ⟨start, session, starts, attached⟩ := one
    cases other with
    | vacant =>
      obtain ⟨_, none, _⟩ := two
      simp [starts] at none
    | opening => rfl
    | held =>
      obtain ⟨run, state, _, _, _, holds⟩ := two
      simp [attached] at holds
  | held =>
    obtain ⟨run, state, _, session, starts, attached⟩ := one
    cases other with
    | vacant =>
      obtain ⟨_, _, none⟩ := two
      simp [attached] at none
    | opening =>
      obtain ⟨start, _, waits, _⟩ := two
      simp [starts] at waits
    | held => rfl

/-- What a panic while links are given or taken could leave behind is not there: a session that is
not active is idle, and one that is starting has a start. -/
structure Settled (f : Follower) : Prop where
  idle : f.session.state.isActive = false → f.session.state = .idle
  waits : f.session.state = .starting → f.starts ≠ []

namespace Settled

variable {f g h : Follower}

theorem of_idle (idle : f.session.state = .idle) : Settled f :=
  ⟨fun _ => idle, fun starting => by rw [idle] at starting; contradiction⟩

theorem stays (settled : Settled f) (stays : f.SameSessions g) : Settled g := by
  rcases stays.state with same | ⟨_, attached⟩
  · exact ⟨fun inactive => same.trans (settled.idle (same ▸ inactive)), fun starting =>
      stays.starts ▸ settled.waits (same.symm.trans starting)⟩
  · refine ⟨fun inactive => ?_, fun starting => ?_⟩
    · have active := attached.active
      rw [inactive] at active
      contradiction
    · rcases attached with other | other <;> rw [starting] at other <;> contradiction

theorem aborted (f : Follower) : Settled f.abortStart :=
  of_idle (congrArg (fun s => s.session.state) (Follower.abortStart_standing f))

/-- A launch that does not panic leaves the session running. -/
theorem launched {attempt : Nat} {backend : Backend} {result : Except Stop Nat}
    (calm : f.Calm) (launched : f.Launched attempt backend (result, g)) : Settled g := by
  cases launched with
  | @done g sync =>
    have running : g.session.state = .running := congrArg Session.state sync.session
    refine ⟨fun inactive => ?_, fun starting => ?_⟩
    · have idle : g.session.state.isActive = false := inactive
      simp [running, SyncState.isActive] at idle
    · have other : SyncState.running = .starting := running.symm.trans starting
      contradiction
  | panicked breaks => exact absurd calm breaks

theorem started {config : BackendConfig} {result : Except Stop Started} (settled : Settled f)
    (calm : f.Calm) (start : f.StartComesTo config (result, g)) : Settled g := by
  cases start with
  | barred bars => exact settled
  | @stopped stop h free sync late => exact aborted h
  | @waiting client server h free sync =>
    have starting : h.session.state = .starting := congrArg Session.state sync.session
    refine ⟨fun inactive => ?_, fun _ => by simp⟩
    have active : h.session.state.isActive = false := inactive
    simp [starting, SyncState.isActive] at active
  | launched free sync launch => exact launched (calm.of_faults sync.faults) launch
  | panicked other free sync launch => exact launched (calm.of_faults sync.faults) launch

theorem resumed {start : PendingStart} {reply : Reply ConnectError} {result : Except Stop Nat}
    (calm : f.Calm) (resume : f.ResumeComesTo start reply (result, g)) : Settled g := by
  cases resume with
  | @stopped stop h sync late => exact aborted h
  | built accepted sync launch => exact launched (calm.of_faults sync.faults) launch

theorem moved {move : Move} (settled : Settled f) (calm : f.Calm)
    (made : f.move? move = some g) : Settled g := by
  cases Follower.moved_of_move made with
  | stays stays goesOn => exact settled.stays stays
  | started config start => exact settled.started calm start
  | @resumed start rest result reply outcome h pending others resume =>
    have same : Follower.Calm { f with starts := rest } := calm.of_faults rfl
    have after : Settled h := resumed same resume
    exact ⟨after.idle, after.waits⟩
  | @abandoned start rest pending =>
    have after := aborted { f with starts := rest }
    exact ⟨after.idle, after.waits⟩
  | panicked text member begun => exact ⟨settled.idle, settled.waits⟩
  | returned result member begun ended => exact of_idle (ended.idle calm.toLinksHold)

end Settled

theorem CalmlyReached.settled {c : Course} (calm : c.CalmlyReached) :
    c.follower.Calm ∧ Settled c.follower := by
  obtain ⟨first, initial, calm, ran⟩ := calm
  -- Each move starts from a follower that the move before it left calm.
  induction ran with
  | start =>
    refine ⟨calm, Settled.of_idle ?_⟩
    rw [initial.fresh.session]
  | move before made may ih => exact ⟨may, ih.2.moved ih.1 made⟩

theorem Sound.phase {c : Course} (sound : c.Sound) (settled : Settled c.follower) :
    ∃ phase, c.InPhase phase := by
  cases sound with
  | vacant inactive backend token starts runs attached =>
    have idle := settled.idle inactive
    have session : c.follower.session = ⟨.idle, none, none⟩ := by
      rw [← idle, ← backend, ← token]
    exact ⟨.vacant, session, starts, attached⟩
  | opening state backend pending runs attached =>
    rcases pending with none | ⟨start, starts, token⟩
    · exact absurd none (settled.waits state)
    · have session : c.follower.session = ⟨.starting, none, some (.start start.attempt)⟩ := by
        rw [← state, ← backend, ← token]
      exact ⟨.opening, start, session, starts, attached⟩
  | held run state backend token starts runs attached numbered =>
    have session : c.follower.session =
        ⟨c.follower.session.state, some run.backend, some (.start run.attempt)⟩ := by
      rw [← backend, ← token]
    exact ⟨.held, run, _, state, session, starts, attached⟩

theorem Sound.runs_attached {c : Course} (sound : c.Sound) :
    (c.follower.runs.map RunLoop.launched).Sublist c.attached := by
  cases sound with
  | vacant _ _ _ _ runs => simp [runs]
  | opening _ _ _ runs => simp [runs]
  | held run _ _ _ _ runs attached =>
    rcases runs with none | one
    · simp [none]
    · simp [one, attached]

/-- In each phase there is one start or run at most, and no state in which a run just ended. -/
theorem InPhase.alone {c : Course} {phase : Phase} (here : c.InPhase phase) :
    c.follower.starts.length + c.attached.length ≤ 1 ∧
      c.follower.session.state ≠ .errored ∧ c.follower.session.state ≠ .canceled := by
  cases phase with
  | vacant =>
    obtain ⟨session, starts, attached⟩ := here
    simp [session, starts, attached]
  | opening =>
    obtain ⟨start, session, starts, attached⟩ := here
    simp [session, starts, attached]
  | held =>
    obtain ⟨run, state, running | synced, session, starts, attached⟩ := here
    · simp [session, starts, attached, running]
    · simp [session, starts, attached, synced]

/-- Exactly one phase at a time, the tasks of runs are among those attached, and there is at most
one start or run. -/
theorem session_exclusive {c : Course} (calm : c.CalmlyReached) :
    (∃! phase, c.InPhase phase) ∧
      (c.follower.runs.map RunLoop.launched).Sublist c.attached ∧
      c.follower.starts.length + c.attached.length ≤ 1 ∧
      c.follower.session.state ≠ .errored ∧ c.follower.session.state ≠ .canceled := by
  have sound := calm.reached.sound
  obtain ⟨phase, here⟩ := sound.phase calm.settled.2
  exact ⟨⟨phase, here, fun other there => there.unique here⟩, sound.runs_attached, here.alone⟩

/-- The standard follower after a start without a server: the backend is attached at once. -/
theorem session_exclusive_launched :
    ∃ f g, Scenario.Setup.standard.follower = .ok f ∧
      f.move? (.step (.start (.spv []))) = some g ∧
      (∃! phase, (next ⟨f, []⟩ (.step (.start (.spv []))) g).InPhase phase) ∧
      (next ⟨f, []⟩ (.step (.start (.spv []))) g).attached.length = 1 := by
  refine ⟨_, _, rfl, rfl, (session_exclusive ?_).1, rfl⟩
  refine ⟨⟨_, []⟩, ⟨⟨Scenario.Setup.standard, rfl⟩, rfl⟩, ?_, ?_⟩
  · exact Follower.Calm.of_none rfl
  · exact .move .start rfl (Follower.Calm.of_none rfl)

end ChainFollower.Course

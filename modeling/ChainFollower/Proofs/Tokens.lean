import ChainFollower.Proofs.Trail

/-! Whose token is where: the session has the token of the start that was tried last, as long as it is
active, and the rescan's slot has that of the rescan whose reader goes on. -/
namespace ChainFollower

namespace Follower

/-- What the token was made for is under way. The session is the one of the start that was tried
last. -/
def UnderWay (f : Follower) : Token → Prop
  | .start attempt => f.session.state.isActive = true ∧ attempt = f.counts.startAttempts
  | .rescan attempt => attempt ∈ f.live

/-- The session has the token of the start that was tried last, as long as it is active. -/
def Owned (f : Follower) : Prop :=
  f.session.token =
    if f.session.state.isActive then some (.start f.counts.startAttempts) else none

namespace Owned

variable {f g : Follower}

theorem of_active (active : f.session.state.isActive = true)
    (token : f.session.token = some (.start f.counts.startAttempts)) : f.Owned := by
  unfold Owned
  rw [active, token]
  rfl

theorem of_inactive (inactive : f.session.state.isActive = false)
    (token : f.session.token = none) : f.Owned := by
  unfold Owned
  rw [inactive, token]
  rfl

theorem token (owned : f.Owned) (active : f.session.state.isActive = true) :
    f.session.token = some (.start f.counts.startAttempts) := by
  unfold Owned at owned
  rwa [active] at owned

theorem held_iff (owned : f.Owned) (attempt : Nat) :
    f.session.token = some (.start attempt) ↔ f.UnderWay (.start attempt) := by
  unfold Owned at owned
  rw [owned]
  cases active : f.session.state.isActive with
  | true => simp [UnderWay, active, eq_comm]
  | false => simp [UnderWay, active]

theorem stays (owned : f.Owned) (stays : SameSessions f g) : g.Owned := by
  have same : g.session.state.isActive = f.session.state.isActive := by
    rcases stays.state with same | ⟨before, after⟩
    · rw [same]
    · rw [before.active, after.active]
  unfold Owned at owned ⊢
  rw [stays.token, stays.attempts, same]
  exact owned

theorem aborted (f : Follower) : f.abortStart.Owned := by
  have standing := abortStart_standing f
  have session : f.abortStart.session = ⟨.idle, none, none⟩ := congrArg Standing.session standing
  exact of_inactive (by rw [session]; rfl) (by rw [session])

/-- A start keeps its token when it is launched, also if that panics. -/
theorem launched {attempt : Nat} {backend : Backend} {result : Except Stop Nat}
    (launched : Launched attempt backend f (result, g)) (state : f.session.state = .starting)
    (token : f.session.token = some (.start f.counts.startAttempts)) : g.Owned := by
  cases launched with
  | @done h sync =>
    have session : h.session = ⟨.running, some backend, f.session.token⟩ := sync.session
    have attempts : h.counts.startAttempts = f.counts.startAttempts := sync.attempts
    have held : h.session.token = some (.start h.counts.startAttempts) := by
      rw [session, attempts, ← token]
    have active : h.session.state.isActive = true := by rw [session]; rfl
    exact of_active active held
  | panicked breaks stays links =>
    exact (of_active (by rw [state]; rfl) token).stays stays

theorem started (owned : f.Owned) {config : BackendConfig} {result : Except Stop Started}
    (start : StartComesTo config f (result, g)) : g.Owned := by
  have entered {h : Follower} (sync : SameSync (f.entered config) h) :
      h.session.state = .starting ∧ h.session.token = some (.start h.counts.startAttempts) := by
    rw [sync.session, sync.attempts]
    exact ⟨rfl, rfl⟩
  cases start with
  | barred bars => exact owned
  | @stopped stop h free sync late => exact aborted h
  | @waiting client server h free sync =>
    obtain ⟨state, token⟩ := entered sync
    have active : h.session.state.isActive = true := by rw [state]; rfl
    exact of_active active token
  | launched free sync launch => exact launched launch (entered sync).1 (entered sync).2
  | panicked backend free sync launch => exact launched launch (entered sync).1 (entered sync).2

/-- The token of the session and who owns it are kept by every move. -/
theorem moved {c : Course} (sound : c.Sound) (owned : c.follower.Owned) {move : Move}
    (made : c.follower.move? move = some g) : g.Owned := by
  cases moved_of_move made with
  | stays stays goesOn => exact owned.stays stays
  | started config start => exact owned.started start
  | @resumed start rest result reply outcome h pending others resume =>
    obtain ⟨state, _⟩ := sound.pending pending
    have token := owned.token (by rw [state]; rfl)
    cases resume with
    | @stopped stop h sync late => exact aborted h
    | @built backend e _ accepted sync launch =>
      have same : e.session.token = some (.start e.counts.startAttempts) := by
        rw [sync.session, sync.attempts]
        exact token
      have starting : e.session.state = .starting := by
        rw [sync.session]
        exact state
      have after : h.Owned := launched launch starting same
      exact after
  | @abandoned start rest pending => exact aborted { c.follower with starts := rest }
  | panicked text member begun => exact owned
  | returned result member begun ended => exact of_inactive ended.inactive ended.token

end Owned

namespace Accounted

variable {f : Follower}

theorem slot_iff (accounted : f.Accounted) (attempt : Nat) :
    f.rescanSlot.token = some (.rescan attempt) ↔ f.UnderWay (.rescan attempt) := by
  rcases accounted.slot with ⟨slot, live⟩ | ⟨other, slot, live⟩
  · simp [UnderWay, slot, live]
  · simp [UnderWay, slot, live, eq_comm]

theorem slot_rescans (accounted : f.Accounted) (attempt : Nat) :
    f.rescanSlot.token ≠ some (.start attempt) := by
  rcases accounted.slot with ⟨slot, _⟩ | ⟨other, slot, _⟩
  · simp [slot]
  · simp [slot]

end Accounted

end Follower

namespace Course

theorem Initial.owned {c : Course} (initial : c.Initial) : c.follower.Owned := by
  have fresh := initial.fresh
  refine .of_inactive ?_ ?_
  · rw [fresh.session]
    rfl
  · rw [fresh.session]

theorem Reached.owned {c : Course} (reached : c.Reached) : c.follower.Owned := by
  obtain ⟨first, initial, ran⟩ := reached
  induction ran with
  | start => exact initial.owned
  | move before made may ih => exact ih.moved (before.sound initial.sound) made

/-- A session is under way while its start waits and until its backend was taken away. -/
theorem CalmlyReached.underWay_iff {c : Course} (calm : c.CalmlyReached) (attempt : Nat) :
    c.follower.UnderWay (.start attempt) ↔
      (∃ start ∈ c.follower.starts, start.attempt = attempt) ∨
        ∃ run ∈ c.attached, run.attempt = attempt := by
  rw [← calm.reached.owned.held_iff]
  obtain ⟨phase, here⟩ := calm.reached.sound.phase calm.settled.2
  cases phase with
  | vacant =>
    obtain ⟨session, starts, attached⟩ := here
    simp [session, starts, attached]
  | opening =>
    obtain ⟨start, session, starts, attached⟩ := here
    simp [session, starts, attached]
  | held =>
    obtain ⟨run, state, _, session, starts, attached⟩ := here
    simp [session, starts, attached]

end Course

end ChainFollower

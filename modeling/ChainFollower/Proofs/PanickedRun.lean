import ChainFollower.Proofs.Reporting

/-! A run that panics ends its task and nothing else: the session keeps its backend for good, so no
sync starts any more and nobody is told of an end. -/
namespace ChainFollower

namespace Follower

/-- While the session is active and there is no task, no move begins or ends anything. -/
theorem sameSessions_of_taskless {f g : Follower} {move : Move}
    (active : f.session.state.isActive = true) (starts : f.starts = []) (runs : f.runs = [])
    (made : f.move? move = some g) : SameSessions f g ∧ move.returned? = none := by
  have bars : f.startBarrier? ≠ none := by
    intro free
    obtain ⟨_, inactive, _⟩ := startBarrier_free free
    rw [active] at inactive
    contradiction
  cases moved_of_move made with
  | stays stays goesOn => exact ⟨stays, goesOn⟩
  | started config start =>
    refine ⟨?_, rfl⟩
    -- Every way to start but the barred one needs a session that is not active.
    cases start with
    | barred => exact SameSessions.refl f
    | stopped free => exact absurd free bars
    | waiting client server free => exact absurd free bars
    | launched free => exact absurd free bars
    | panicked backend free => exact absurd free bars
  | resumed pending => simp [starts] at pending
  | abandoned pending => simp [starts] at pending
  | panicked text member => simp [runs] at member
  | returned result member => simp [runs] at member

/-- An active session refuses every start. -/
theorem startSync_active {f : Follower} (active : f.session.state.isActive = true)
    (config : BackendConfig) :
    (startSync config).run f =
      (.error (.failed (if f.loader.loaded then .syncAlreadyInProgress else .walletNotLoaded)),
        f) := by
  rw [run_startSync]
  unfold startBarrier?
  cases loaded : f.loader.loaded with
  | false => rfl
  | true => simp [active]

/-- A backend is attached and there is no task that could take it away. -/
structure Wedged (run : RunLoop) (f : Follower) : Prop where
  state : f.session.state.Attached
  backend : f.session.backend = some run.backend
  token : f.session.token = some (.start run.attempt)
  starts : f.starts = []
  runs : f.runs = []

namespace Wedged

variable {run : RunLoop} {f g : Follower}

theorem stays (wedged : Wedged run f) (stays : SameSessions f g) : Wedged run g where
  state := by
    rcases stays.state with same | ⟨_, attached⟩
    · exact same ▸ wedged.state
    · exact attached
  backend := stays.backend.trans wedged.backend
  token := stays.token.trans wedged.token
  starts := stays.starts.trans wedged.starts
  runs := by simpa [wedged.runs] using stays.runs

theorem moved {move : Move} (wedged : Wedged run f) (made : f.move? move = some g) :
    Wedged run g ∧ move.returned? = none := by
  obtain ⟨stays, goesOn⟩ :=
    sameSessions_of_taskless wedged.state.active wedged.starts wedged.runs made
  exact ⟨wedged.stays stays, goesOn⟩

theorem refuses (wedged : Wedged run f) (config : BackendConfig) :
    (startSync config).run f =
      (.error (.failed (if f.loader.loaded then .syncAlreadyInProgress else .walletNotLoaded)),
        f) :=
  startSync_active wedged.state.active config

end Wedged

end Follower

namespace Course

open Follower

theorem wedged_ran {run : RunLoop} {c d : Course} {allowed : Follower → Move → Follower → Prop}
    (wedged : Wedged run c.follower) (ran : Ran allowed c d) :
    Wedged run d.follower ∧ Without Happening.TellsEnd c.follower d.follower := by
  induction ran with
  | start => exact ⟨wedged, Without.refl _⟩
  | move before made may ih =>
    obtain ⟨still, silent⟩ := ih
    obtain ⟨after, goesOn⟩ := still.moved made
    exact ⟨after, silent.trans (silent_move made goesOn)⟩

/-- What the panic of a run leads from `c` to `g`, and what can become of that. -/
structure PanicLeaves (c : Course) (run : RunLoop) (text : String) (g : Follower) : Prop where
  /-- The task is gone, and its end is noted. -/
  only : g = { c.follower with
    runs := []
    history := .syncEnded run.number (SyncOutcome.ofPanic text) :: c.follower.history }
  /-- Whatever follows, the backend stays, every start is refused and nobody hears of an end. -/
  later : ∀ d, Ran (fun _ _ _ => True) (c.next (.runEnds run.number (.panic text)) g) d →
    Wedged run d.follower ∧
      (∀ config, (startSync config).run d.follower =
        (.error (.failed
          (if d.follower.loader.loaded then .syncAlreadyInProgress else .walletNotLoaded)),
          d.follower)) ∧
      ∀ position, (heardBy position d.follower.history).filter Event.endsSync =
        (heardBy position c.follower.history).filter Event.endsSync

/-- Whatever went on before, a run that panics leaves its backend attached for good. -/
theorem panicked_run_keeps_backend {c : Course} (reached : c.Reached) {run : RunLoop}
    {text : String} {g : Follower} (member : run ∈ c.follower.runs)
    (made : c.follower.move? (.runEnds run.number (.panic text)) = some g) :
    PanicLeaves c run text g := by
  obtain ⟨state, backend, token, starts, runs, _, _⟩ := reached.sound.running member
  have only : g = { c.follower with
      runs := []
      history := .syncEnded run.number (SyncOutcome.ofPanic text) :: c.follower.history } := by
    have ended : c.follower.finishRun run (.panic text) =
        (c.follower.withoutRun run).note
          (.syncEnded run.number (SyncOutcome.ofPanic text)) := rfl
    rw [finishRun_of_move reached.sound member made, ended]
    simp [withoutRun, runs, note]
  have wedged : Wedged run g := by
    subst only
    exact ⟨state, backend, token, starts, rfl⟩
  have silent : Without Happening.TellsEnd c.follower g := by
    subst only
    exact ⟨[_], rfl, by simp [Happening.TellsEnd]⟩
  refine ⟨only, fun d ran => ?_⟩
  obtain ⟨still, since⟩ := wedged_ran wedged ran
  exact ⟨still, still.refuses, (silent.trans since).heard_ends⟩

/-- The standard follower whose peer-to-peer run panics after it told that it is synced. -/
theorem panicked_run_keeps_backend_synced :
    ∃ (c : Course) (run : RunLoop) (g : Follower), c.Reached ∧ c.follower.runs = [run] ∧
      PanicLeaves c run "boom" g ∧ g.session = ⟨.synced, some (.spv 1), some (.start 1)⟩ ∧
      g.wallet.link = some (.syncer ⟨.spv, 1⟩) ∧ g.loader.link = some (.syncer ⟨.spv, 1⟩) := by
  let run : RunLoop := ⟨1, 1, .spv 1, true⟩
  have started : Ran (fun _ _ _ => True) standard _ :=
    .move .start (rfl : standard.follower.move? (.step (.start (.spv []))) = some _) trivial
  have called : Ran (fun _ _ _ => True) standard _ :=
    .move started (rfl : Follower.move? _ (.call 1) = some _) trivial
  have synced : Ran (fun _ _ _ => True) standard _ :=
    .move called (rfl : Follower.move? _ (.notice .spv (.synced true)) = some _) trivial
  have reached : Reached _ := ⟨standard, standard_initial, synced⟩
  have leaves := @panicked_run_keeps_backend _ reached run "boom" _ (List.mem_singleton.mpr rfl) rfl
  exact ⟨_, run, _, reached, rfl, leaves, rfl, rfl, rfl⟩

/-- After its run panicked, the standard follower refuses the next start of the loaded wallet, and
its listener heard nothing. -/
theorem panicked_run_bars_next :
    ∃ (c : Course) (g : Follower), c.Reached ∧
      c.follower.move? (.runEnds 1 (.panic "boom")) = some g ∧ g.loader.loaded = true ∧
      g.session = ⟨.running, some (.spv 1), some (.start 1)⟩ ∧
      g.wallet.link = some (.syncer ⟨.spv, 1⟩) ∧ heardBy 0 g.history = [] ∧
      (startSync (.spv [])).run g = (.error (.failed .syncAlreadyInProgress), g) := by
  have started : Ran (fun _ _ _ => True) standard _ :=
    .move .start (rfl : standard.follower.move? (.step (.start (.spv []))) = some _) trivial
  have called : Ran (fun _ _ _ => True) standard _ :=
    .move started (rfl : Follower.move? _ (.call 1) = some _) trivial
  exact ⟨_, _, ⟨standard, standard_initial, called⟩, rfl, rfl, rfl, rfl, rfl, rfl⟩

end Course

end ChainFollower

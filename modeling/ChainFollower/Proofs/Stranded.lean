import ChainFollower.Proofs.Kinds
import ChainFollower.Proofs.PanickedRun

/-! A start is guarded until its backend is built, and no longer: a panic while the backend is
attached leaves the session in this start for good. -/
namespace ChainFollower

namespace Follower

open Act

namespace Lone

variable {attempt : Nat} {f g : Follower}

theorem active (lone : Lone attempt f) : f.session.state.isActive = true := by
  rw [lone.session]
  rfl

theorem stays (lone : Lone attempt f) (stays : SameSessions f g) : Lone attempt g where
  session := by
    have state : g.session.state = f.session.state := by
      rcases stays.state with same | ⟨attached, _⟩
      · exact same
      · rw [lone.session] at attached
        rcases attached with other | other <;> contradiction
    have same : g.session = ⟨g.session.state, g.session.backend, g.session.token⟩ := rfl
    rw [same, state, stays.backend, stays.token, lone.session]
  starts := stays.starts.trans lone.starts
  runs := by simpa [lone.runs] using stays.runs

theorem moved {move : Move} (lone : Lone attempt f) (made : f.move? move = some g) :
    Lone attempt g ∧ move.returned? = none := by
  obtain ⟨stays, goesOn⟩ :=
    sameSessions_of_taskless lone.active lone.starts lone.runs made
  exact ⟨lone.stays stays, goesOn⟩

end Lone

/-- What a panic while this backend is attached makes of the links: the loader never gets it, and
the wallet keeps it exactly if the loader's call is the one that panics. -/
structure HalfAttached (backend : Backend) (f g : Follower) : Prop where
  loader : g.loader.link = f.loader.link
  given : f.Holds .backendLink → f.Holds .walletBackend → g.wallet.link = some backend.link
  spared : ¬ (f.Holds .backendLink ∧ f.Holds .walletBackend) → g.wallet.link = f.wallet.link

theorem Breaks.halfAttached {backend : Backend} {f g : Follower} (breaks : Breaks backend f g) :
    HalfAttached backend f g := by
  cases breaks with
  | backend breaks => exact ⟨rfl, fun holds => absurd holds breaks, fun _ => rfl⟩
  | wallet holds breaks => exact ⟨rfl, fun _ given => absurd given breaks, fun _ => rfl⟩
  | loader holds given => exact ⟨rfl, fun _ _ => rfl, fun broken => absurd ⟨holds, given⟩ broken⟩

end Follower

namespace Course

open Follower

/-- What a panic in attaching the backend of a start leads to. -/
structure Strands (c : Course) (attempt : Nat) (backend : Backend) (d : Course) : Prop where
  lone : Lone attempt d.follower
  links : HalfAttached backend c.follower d.follower
  /-- Whatever follows, the session stays in this start, every other one is refused and nobody hears
  of an end. -/
  later : ∀ e, Ran (fun _ _ _ => True) d e →
    Lone attempt e.follower ∧
      (∀ config, (startSync config).run e.follower =
        (.error (.failed
          (if e.follower.loader.loaded then .syncAlreadyInProgress else .walletNotLoaded)),
          e.follower)) ∧
      ∀ position, (heardBy position e.follower.history).filter Event.endsSync =
        (heardBy position d.follower.history).filter Event.endsSync

theorem lone_ran {attempt : Nat} {c d : Course}
    {allowed : Follower → Move → Follower → Prop} (lone : Lone attempt c.follower)
    (ran : Ran allowed c d) :
    Lone attempt d.follower ∧ Without Happening.TellsEnd c.follower d.follower := by
  induction ran with
  | start => exact ⟨lone, Without.refl _⟩
  | move before made may ih =>
    obtain ⟨still, silent⟩ := ih
    obtain ⟨after, goesOn⟩ := still.moved made
    exact ⟨after, silent.trans (silent_move made goesOn)⟩

/-- Whatever went on before, a backend whose attaching panics leaves its start under way for
good. -/
theorem broken_attach_strands {c : Course} (reached : c.Reached) {move : Move} {attempt : Nat}
    {backend : Backend} {g h : Follower} (ready : Ready c.follower move attempt backend g)
    (broken : ¬ c.follower.Calm) (made : c.follower.move? move = some h) :
    Strands c attempt backend (c.next move h) := by
  have opening := reached.sound.ready ready
  have hold {place : Place} : g.Holds place ↔ c.follower.Holds place :=
    ⟨fun hold => hold.of_faults opening.faults.symm, fun hold => hold.of_faults opening.faults⟩
  obtain ⟨k, breaks, came⟩ : ∃ k, Breaks backend g k ∧ Noted k h := by
    rcases attaching_cases ready made with ⟨calm, _⟩ | breaks
    · exact absurd (calm.of_faults opening.faults.symm) broken
    · exact breaks
  -- The start is no longer guarded, so that the panic leaves the follower as it was broken off.
  have halfway := breaks.halfAttached
  have lone := opening.toLone.stays breaks.stays
  have standing := came.standing
  have still : Lone attempt h :=
    ⟨(congrArg Standing.session standing).trans lone.session,
      (congrArg Standing.starts standing).trans lone.starts,
      (congrArg Standing.runs standing).trans lone.runs⟩
  have wallet : h.wallet.link = k.wallet.link := congrArg Standing.walletLink standing
  have loader : h.loader.link = k.loader.link := congrArg Standing.loaderLink standing
  refine ⟨still, ⟨?_, ?_, ?_⟩, fun e ran => ?_⟩
  · exact (loader.trans halfway.loader).trans opening.loader
  · exact fun link given => wallet.trans (halfway.given (hold.mpr link) (hold.mpr given))
  · intro less
    refine (wallet.trans (halfway.spared fun both => less ?_)).trans opening.wallet
    exact ⟨hold.mp both.1, hold.mp both.2⟩
  · obtain ⟨after, silent⟩ := lone_ran still ran
    exact ⟨after, startSync_active after.active, silent.heard_ends⟩

def breaking (place : Place) : Course :=
  standard.next (.step (.fail place (some (.panic "attach"))))
    (Scenario.Step.setFault standard.follower place (some (.panic "attach")))

theorem breaking_reached (place : Place) : (breaking place).Reached :=
  ⟨standard, standard_initial, .of_after
    (rfl : standard.after? [.step (.fail place (some (.panic "attach")))] = some (breaking place))⟩

/-- The loader panics when it is given the backend that the wallet has. -/
theorem broken_attach_strands_loader : ∃ (g : Follower) (d : Course),
    Ready (breaking .loaderBackend).follower (.step (.start (.spv []))) 1 (.spv 1) g ∧
    (breaking .loaderBackend).after? [.step (.start (.spv []))] = some d ∧
    Strands (breaking .loaderBackend) 1 (.spv 1) d ∧
    d.follower.wallet.link = some (.syncer ⟨.spv, 1⟩) ∧ d.follower.loader.link = none := by
  have ready : Ready (breaking .loaderBackend).follower (.step (.start (.spv []))) 1 (.spv 1) _ :=
    .started rfl rfl
  have uncalm : ¬ (breaking .loaderBackend).follower.Calm := fun calm => calm.loader "attach" rfl
  exact ⟨_, _, ready, rfl, broken_attach_strands (breaking_reached _) ready uncalm rfl, rfl, rfl⟩

/-- The wallet panics when it is given the backend. Though no call panics any more after that, the
session is not idle, and the next start of the loaded wallet is refused. -/
theorem broken_attach_bars_next : ∃ g h : Follower, (breaking .walletBackend).Reached ∧
    (breaking .walletBackend).follower.startBarrier? = none ∧
    (startSync (.spv [])).run (breaking .walletBackend).follower =
      (.error (.panicked "attach"), g) ∧
    g.session = ⟨.starting, none, some (.start 1)⟩ ∧
    g.move? (.step (.fail .walletBackend none)) = some h ∧ h.faults = [] ∧
    h.loader.loaded = true ∧ h.wallet.link = none ∧
    (startSync (.spv [])).run h = (.error (.failed .syncAlreadyInProgress), h) :=
  ⟨_, _, breaking_reached _, rfl, rfl, rfl, rfl, rfl, rfl, rfl, rfl⟩

end Course

end ChainFollower

import ChainFollower.Proofs.Course

/-! A start that does not get as far as attaching its backend leaves nothing behind, whether it is
barred, fails, panics while it builds or is given up. -/
namespace ChainFollower

def Happening.Relinks : Happening → Prop
  | saw (.walletBackend _ _) => True
  | saw (.loaderBackend _ _) => True
  | _ => False

theorem Happening.SparesSync.relinks_nothing {happening : Happening}
    (spares : happening.SparesSync) : ¬ happening.Relinks := by
  unfold Happening.Relinks
  split
  · exact fun _ => spares
  · exact fun _ => spares
  · exact id

namespace Follower

/-- Between `f` and `g` no link was given or taken and no task of a sync was started or ended. -/
structure Unattached (f g : Follower) : Prop where
  relinks : Without Happening.Relinks f g
  walletLink : g.wallet.link = f.wallet.link
  loaderLink : g.loader.link = f.loader.link
  runs : g.runs = f.runs
  syncs : g.counts.syncs = f.counts.syncs

namespace Unattached

variable {f g h : Follower}

theorem of_sameSync (sync : SameSync f g) : Unattached f g :=
  ⟨Without.of_sameSync (fun _ spares => spares.relinks_nothing) sync, sync.walletLink,
    sync.loaderLink, sync.runs, sync.syncs⟩

theorem trans (first : Unattached f g) (second : Unattached g h) : Unattached f h :=
  ⟨first.relinks.trans second.relinks, second.walletLink.trans first.walletLink,
    second.loaderLink.trans first.loaderLink, second.runs.trans first.runs,
    second.syncs.trans first.syncs⟩

theorem withStarts (f : Follower) (starts : List PendingStart) :
    Unattached f { f with starts := starts } :=
  ⟨Without.of_same rfl, rfl, rfl, rfl, rfl⟩

theorem entered (f : Follower) (config : BackendConfig) : Unattached f (f.entered config) :=
  ⟨⟨[_, _], rfl, by simp [Happening.Relinks]⟩, rfl, rfl, rfl, rfl⟩

theorem abortStart (f : Follower) : Unattached f f.abortStart := by
  have cancelled := of_sameSync (SameSync.cancelQuietly f)
  exact cancelled.trans ⟨⟨[.stateSet .idle], rfl, by simp [Happening.Relinks]⟩, rfl, rfl, rfl, rfl⟩

theorem note (f : Follower) {happening : Happening} (other : ¬ happening.Relinks) :
    Unattached f (f.note happening) :=
  ⟨Without.note f other, rfl, rfl, rfl, rfl⟩

end Unattached

/-- What a start leaves in `g` that was made or waited in `f` and attached nothing. -/
structure LeavesNothing (attempt : Nat) (f g : Follower) : Prop where
  unattached : Unattached f g
  session : g.session = ⟨.idle, none, none⟩
  cancelled : g.isCancelled (.start attempt) = true
  starts : g.starts = []
  /-- The next start passes the guard, if a wallet is loaded and has no backend. -/
  free : g.loader.loaded = true → g.wallet.link = none → g.startBarrier? = none

theorem LeavesNothing.abortStart {attempt : Nat} {f g : Follower} (unattached : Unattached f g)
    (token : g.session.token = some (.start attempt)) (starts : g.starts = []) :
    LeavesNothing attempt f g.abortStart where
  unattached := unattached.trans (Unattached.abortStart g)
  session := congrArg Standing.session (abortStart_standing g)
  cancelled := by
    simp [Follower.abortStart, cancelQuietly, token, isCancelled, cancel, setState, note]
  starts := (congrArg Standing.starts (abortStart_standing g)).trans starts
  free := by
    intro loaded unlinked
    have session : g.abortStart.session = ⟨.idle, none, none⟩ :=
      congrArg Standing.session (abortStart_standing g)
    simp [startBarrier?, loaded, unlinked, session, SyncState.isActive]

theorem LeavesNothing.note {attempt : Nat} {f g : Follower} (left : LeavesNothing attempt f g)
    {happening : Happening} (other : ¬ happening.Relinks) :
    LeavesNothing attempt f (g.note happening) :=
  ⟨left.unattached.trans (Unattached.note g other), left.session, left.cancelled, left.starts,
    left.free⟩

structure Waits (attempt : Nat) (f g : Follower) : Prop where
  unattached : Unattached f g
  pending : ∃ client server, g.starts = [⟨attempt, client, server⟩]
  token : g.session.token = some (.start attempt)

end Follower

namespace Course

open Follower

variable {c : Course}

theorem Sound.entered (sound : c.Sound) (config : BackendConfig) {g : Follower}
    (free : c.follower.startBarrier? = none) (sync : SameSync (c.follower.entered config) g) :
    Unattached c.follower g ∧
      g.session.token = some (.start (c.follower.counts.startAttempts + 1)) ∧ g.starts = [] := by
  obtain ⟨_, starts, _, _⟩ := sound.free free
  refine ⟨(Unattached.entered _ config).trans (Unattached.of_sameSync sync), ?_,
    sync.starts.trans starts⟩
  exact congrArg Session.token sync.session

/-- What the outcome of a call to start says about what it leaves. -/
structure CallLeaves (config : BackendConfig) (f : Follower) : Prop where
  /-- Barred, it does nothing at all. -/
  barred : ∀ e g, (startSync config).run f = (.error (.failed e), g) →
    e = .walletNotLoaded ∨ e = .syncAlreadyInProgress → g = f
  failed : ∀ e g, (startSync config).run f = (.error (.failed e), g) →
    e ≠ .walletNotLoaded → e ≠ .syncAlreadyInProgress →
    LeavesNothing (f.counts.startAttempts + 1) f g
  /-- A collaborator panics inside the building of the backend. -/
  panicked : ∀ text h, f.startBarrier? = none →
    (build (f.counts.startAttempts + 1) config).run (f.entered config) =
      (.error (.panicked text), h) →
    ∃ g, (startSync config).run f = (.error (.panicked text), g) ∧
      LeavesNothing (f.counts.startAttempts + 1) f g
  waits : ∀ g, (startSync config).run f = (.ok .pending, g) →
    Waits (f.counts.startAttempts + 1) f g

/-- What becomes of a start that waits in `f`, unless its backend is attached. -/
structure WaitLeaves (start : PendingStart) (f : Follower) : Prop where
  /-- Its connection has a reply and the start fails. -/
  failed : ∀ reply g e since, f.move? (.connection start.attempt reply) = some g →
    g.history = .startEnded (.stopped (.failed e)) :: since →
    (Stop.failed e).Late ∧ LeavesNothing start.attempt f g
  /-- A collaborator panics inside the connecting or the building of the backend. -/
  panicked : ∀ reply text h,
    (connected start.attempt start.client start.address reply).run { f with starts := [] } =
      (.error (.panicked text), h) →
    ∃ g, f.move? (.connection start.attempt reply) = some g ∧ LeavesNothing start.attempt f g
  abandoned : ∀ g, f.move? (.step .abandonStart) = some g → LeavesNothing start.attempt f g

theorem Sound.call_leaves (sound : c.Sound) (config : BackendConfig) :
    CallLeaves config c.follower where
  barred := by
    intro e g came bars
    have start := comesTo_startSync config c.follower
    rw [came] at start
    cases start with
    | barred => rfl
    | stopped free sync late => rcases bars with rfl | rfl <;> exact late.elim
  failed := by
    intro e g came loaded idle
    have start := comesTo_startSync config c.follower
    rw [came] at start
    cases start with
    | barred bars =>
      unfold startBarrier? at bars
      split at bars
      · exact absurd (Option.some.inj bars).symm loaded
      · split at bars
        · exact absurd (Option.some.inj bars).symm idle
        · contradiction
    | stopped free sync late =>
      obtain ⟨unattached, token, starts⟩ := sound.entered config free sync
      exact LeavesNothing.abortStart unattached token starts
  panicked := by
    intro text h free came
    have sync : SameSync (c.follower.entered config) h := by
      have built := built_build (c.follower.counts.startAttempts + 1) config
        (c.follower.entered config)
      rw [came] at built
      cases built with
      | stopped sync => exact sync
    obtain ⟨unattached, token, starts⟩ := sound.entered config free sync
    refine ⟨_, ?_, LeavesNothing.abortStart unattached token starts⟩
    rw [run_startSync, free]
    simp only [came]
    rfl
  waits := by
    intro g came
    have start := comesTo_startSync config c.follower
    rw [came] at start
    cases start with
    | @waiting client server h free sync =>
      obtain ⟨unattached, token, starts⟩ := sound.entered config free sync
      refine ⟨unattached.trans (Unattached.withStarts h _), ⟨client, server, ?_⟩, token⟩
      simp [starts]

theorem Sound.resume_move (sound : c.Sound) {start : PendingStart}
    (member : start ∈ c.follower.starts) (reply : Reply ConnectError) :
    c.follower.move? (.connection start.attempt reply) = some (c.follower.finishStart start reply) ∧
      c.follower.starts.filter (fun other => other.attempt != start.attempt) = [] := by
  obtain ⟨_, _, starts, _, _, _⟩ := sound.pending member
  simp [move?, starts]

theorem Sound.wait_aborted (sound : c.Sound) {start : PendingStart}
    (member : start ∈ c.follower.starts) {g : Follower}
    (sync : SameSync { c.follower with starts := [] } g) :
    LeavesNothing start.attempt c.follower g.abortStart := by
  obtain ⟨_, _, _, token, _, _⟩ := sound.pending member
  have begun := Unattached.withStarts c.follower []
  refine LeavesNothing.abortStart (begun.trans (Unattached.of_sameSync sync)) ?_ sync.starts
  exact (congrArg Session.token sync.session).trans token

theorem Sound.wait_leaves (sound : c.Sound) {start : PendingStart}
    (member : start ∈ c.follower.starts) : WaitLeaves start c.follower := by
  obtain ⟨_, _, starts, _, _, _⟩ := sound.pending member
  exact {
    failed := by
      intro reply g e since made ended
      obtain ⟨move, alone⟩ := sound.resume_move member reply
      have same : g = c.follower.finishStart start reply := Option.some.inj (made.symm.trans move)
      have resume := comesTo_resumeStart start reply { c.follower with starts := [] }
      rw [finishStart_eq, alone] at same
      dsimp only at same
      subst same
      cases came : (resumeStart start reply).run { c.follower with starts := [] } with
      | mk result h =>
        rw [came] at resume ended
        have outcome : StartOutcome.ofResult result = .stopped (.failed e) :=
          Happening.startEnded.inj (List.cons.inj ended).1
        cases result with
        | ok number => contradiction
        | error stop =>
          have stopped : stop = .failed e := StartOutcome.stopped.inj outcome
          subst stopped
          cases resume with
          | stopped sync late => exact ⟨late, (sound.wait_aborted member sync).note id⟩
          | built accepted sync launched => cases launched
    panicked := by
      intro reply text h came
      obtain ⟨move, alone⟩ := sound.resume_move member reply
      have building := builds_connected start.attempt start.client start.address reply
      have sync := building.sameSync { c.follower with starts := [] }
      rw [came] at sync
      refine ⟨_, move, ?_⟩
      rw [finishStart_eq, alone]
      dsimp only
      rw [run_resumeStart, came]
      exact (sound.wait_aborted member sync).note id
    abandoned := by
      intro g made
      have given : c.follower.move? (.step .abandonStart) =
          some ({ c.follower with starts := [] }.abortStart.note (.startEnded .abandoned)) := by
        simp [move?, Scenario.Step.perform, Scenario.Step.flagOf, abandonStart, starts]
      have same := Option.some.inj (made.symm.trans given)
      rw [same]
      exact (sound.wait_aborted member (SameSync.refl _)).note id }

/-- Whatever went on before, a call to start that does not get as far as attaching its backend
leaves nothing behind, at once or after it waited. -/
theorem failed_start_leaves_nothing {c : Course} (reached : c.Reached) :
    (∀ config, CallLeaves config c.follower) ∧
      ∀ start ∈ c.follower.starts, WaitLeaves start c.follower :=
  ⟨reached.sound.call_leaves, fun _ member => reached.sound.wait_leaves member⟩

/-- The standard follower with a start whose connection does not come back by itself. -/
theorem failed_start_leaves_nothing_waiting :
    ∃ (c : Course) (start : PendingStart), c.Reached ∧ c.follower.starts = [start] ∧
      WaitLeaves start c.follower := by
  let server : BackendConfig := .rpc "10.0.0.1:19109" "user" "password" none
  have gated : Ran (fun _ _ _ => True) standard _ :=
    .move .start
      (rfl : standard.follower.move? (.step (.connectScript ⟨none, none, none⟩)) = some _) trivial
  have started : Ran (fun _ _ _ => True) standard _ :=
    .move gated (rfl : Follower.move? _ (.step (.start server)) = some _) trivial
  have reached : Reached _ := ⟨standard, standard_initial, started⟩
  exact ⟨_, _, reached, rfl, (failed_start_leaves_nothing reached).2 _ (List.mem_singleton.mpr rfl)⟩

end Course

end ChainFollower

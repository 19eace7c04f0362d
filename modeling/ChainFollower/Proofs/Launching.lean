import ChainFollower.Proofs.SameSessions
import ChainFollower.Proofs.Building

/-! How a start goes on: it is barred, or it is entered and a backend is built, and then it is
aborted, waits for a connection, or attaches the backend. -/
namespace ChainFollower.Follower

open Act

/-- Wallet and loader are not set up to panic when they are given a link or lose it. -/
structure LinksHold (f : Follower) : Prop where
  wallet : f.Holds .walletBackend
  loader : f.Holds .loaderBackend

/-- Neither are backends when they are asked for their link. -/
structure Calm (f : Follower) : Prop extends LinksHold f where
  backend : f.Holds .backendLink

theorem LinksHold.of_faults {f g : Follower} (hold : f.LinksHold) (same : g.faults = f.faults) :
    g.LinksHold :=
  ⟨hold.wallet.of_faults same, hold.loader.of_faults same⟩

theorem Calm.of_faults {f g : Follower} (calm : f.Calm) (same : g.faults = f.faults) : g.Calm :=
  ⟨calm.toLinksHold.of_faults same, calm.backend.of_faults same⟩

theorem Calm.of_none {f : Follower} (none : f.faults = []) : f.Calm := by
  have hold (place : Place) : f.Holds place := by
    intro text
    unfold fault?
    rw [none]
    exact nofun
  exact ⟨⟨hold _, hold _⟩, hold _⟩

def entered (f : Follower) (config : BackendConfig) : Follower :=
  let attempt := f.counts.startAttempts + 1
  let f := f.setState .starting
  let f := { f with counts := { f.counts with startAttempts := attempt } }
  (f.log (.starting config)).storeToken (.start attempt)

theorem startBarrier_free {f : Follower} (free : f.startBarrier? = none) :
    f.loader.loaded = true ∧ f.session.state.isActive = false ∧ f.wallet.link = none := by
  unfold startBarrier? at free
  split at free
  · contradiction
  · rename_i loaded
    split at free
    · contradiction
    · rename_i idle
      simp only [Bool.or_eq_true, not_or, Bool.not_eq_true, Option.isSome_eq_false_iff,
        Option.isNone_iff_eq_none] at idle
      exact ⟨by simpa using loaded, idle.1, idle.2⟩

def warn (f : Follower) : Stop → Follower
  | .failed e => f.log (.startFailed e)
  | .panicked _ => f

theorem SameTasksAndClient.warn (f : Follower) (stop : Stop) :
    SameTasksAndClient f (f.warn stop) := by
  cases stop with
  | failed e => exact log f _
  | panicked text => exact refl f

theorem abortStart_standing (f : Follower) :
    f.abortStart.standing = { f.standing with session := ⟨.idle, none, none⟩ } := by
  have same : f.cancelQuietly.standing = f.standing := (SameSync.cancelQuietly f).standing
  have abort : f.abortStart.standing =
    { f.cancelQuietly.standing with session := ⟨.idle, none, none⟩ } := rfl
  rw [abort, same]

theorem stopped_standing (f : Follower) (stop : Stop) :
    (f.warn stop).abortStart.standing = { f.standing with session := ⟨.idle, none, none⟩ } := by
  rw [abortStart_standing, (SameTasksAndClient.warn f stop).sameSync.standing]

theorem run_orAbort_warned {α : Type} (work : Act α) (f : Follower) :
    (orAbort (warned work)).run f =
      match work.run f with
      | (.ok value, g) => (.ok value, g)
      | (.error stop, g) => (.error stop, (g.warn stop).abortStart) := by
  unfold orAbort warned
  rw [run_tryCatch, run_tryCatch]
  rcases work.run f with ⟨(e | text) | value, g⟩ <;> rfl

theorem run_startSync_free {f : Follower} (free : f.startBarrier? = none) (config : BackendConfig) :
    (startSync config).run f =
      (orAbort (warned (build (f.counts.startAttempts + 1) config)) >>= fun found =>
        match found with
        | some backend => Started.launched <$> launch (f.counts.startAttempts + 1) backend
        | none => pure .pending).run (f.entered config) := by
  unfold startSync
  rw [run_bind, run_get]
  dsimp only
  unfold beginStart
  rw [free]
  rfl

theorem run_startSync (config : BackendConfig) (f : Follower) :
    (startSync config).run f =
      match f.startBarrier? with
      | some e => (.error (.failed e), f)
      | none =>
        match (build (f.counts.startAttempts + 1) config).run (f.entered config) with
        | (.ok (some backend), g) =>
          (Started.launched <$> launch (f.counts.startAttempts + 1) backend).run g
        | (.ok none, g) => (.ok .pending, g)
        | (.error stop, g) => (.error stop, (g.warn stop).abortStart) := by
  cases barrier : f.startBarrier? with
  | some e =>
    unfold startSync
    rw [run_bind, run_get]
    dsimp only
    unfold beginStart
    rw [barrier]
    rfl
  | none =>
    rw [run_startSync_free barrier, run_bind, run_orAbort_warned]
    rcases (build (f.counts.startAttempts + 1) config).run (f.entered config)
      with ⟨stop | (_ | backend), g⟩ <;> rfl

theorem run_resumeStart (start : PendingStart) (reply : Reply ConnectError) (f : Follower) :
    (resumeStart start reply).run f =
      match (connected start.attempt start.client start.address reply).run f with
      | (.ok backend, g) => (launch start.attempt backend).run g
      | (.error stop, g) => (.error stop, (g.warn stop).abortStart) := by
  unfold resumeStart
  rw [run_bind, run_orAbort_warned]
  rcases (connected start.attempt start.client start.address reply).run f
    with ⟨stop | backend, g⟩ <;> rfl

def attached (f : Follower) (backend : Backend) : Follower :=
  let f := (f.walletLinked (some backend.link)).loaderLinked (some backend.link)
  { f with session := { f.session with backend := some backend } }.setState .running

def withRun (f : Follower) (attempt : Nat) (backend : Backend) : Follower :=
  let number := f.counts.syncs + 1
  { f with
    counts := { f.counts with syncs := number }
    runs := f.runs ++ [⟨number, attempt, backend, false⟩] }

/-- Listeners are told at once that there are no peers if the backend will never report any. -/
def announced (f : Follower) (backend : Backend) : Follower :=
  if backend.kind.reportsPeers then f else f.broadcast (.peerDisconnected (-1))

/-- What becomes of a launch. A panic leaves the session as it is, and no task. -/
inductive Launched (attempt : Nat) (backend : Backend) (f : Follower) :
    Except Stop Nat × Follower → Prop where
  | done {g : Follower} (sync : SameSync (f.attached backend) g) :
    Launched attempt backend f (.ok (g.counts.syncs + 1), g.withRun attempt backend)
  | panicked {text : String} {g : Follower} (breaks : ¬ f.Calm) (stays : SameSessions f g)
      (links : g = f ∨ ¬ Without Happening.Gives f g) :
    Launched attempt backend f (.error (.panicked text), g)

inductive Breaks (backend : Backend) (f : Follower) : Follower → Prop where
  | backend (breaks : ¬ f.Holds .backendLink) : Breaks backend f f
  | wallet (holds : f.Holds .backendLink) (breaks : ¬ f.Holds .walletBackend) :
    Breaks backend f (f.saw (.walletBackend (some backend.link) f.session.state))
  | loader (holds : f.Holds .backendLink) (given : f.Holds .walletBackend)
      (breaks : ¬ f.Holds .loaderBackend) :
    Breaks backend f ((f.walletLinked (some backend.link)).saw
      (.loaderBackend (some backend.link) f.session.state))

namespace Breaks

variable {backend : Backend} {f g : Follower}

theorem uncalm (breaks : Breaks backend f g) : ¬ f.Calm := by
  cases breaks with
  | backend breaks => exact fun calm => breaks calm.backend
  | wallet holds breaks => exact fun calm => breaks calm.wallet
  | loader holds given breaks => exact fun calm => breaks calm.loader

theorem stays (breaks : Breaks backend f g) : SameSessions f g := by
  cases breaks with
  | backend => exact SameSessions.refl f
  | wallet => exact SameSessions.note f id
  | loader =>
    have linked : SameSessions f (f.walletLinked (some backend.link)) :=
      ⟨rfl, rfl, Or.inl rfl, rfl, rfl, rfl, rfl, [_], rfl, by simp [Happening.TellsEnd]⟩
    exact linked.trans (SameSessions.note _ id)

/-- A panic in attaching comes after the wallet was called. -/
theorem links (breaks : Breaks backend f g) : g = f ∨ ¬ Without Happening.Gives f g := by
  let given := Happening.saw (.walletBackend (some backend.link) f.session.state)
  have gives : given.Gives := trivial
  cases breaks with
  | backend => exact Or.inl rfl
  | wallet => exact Or.inr fun none => none.mem (rfl : _ = [given] ++ f.history) (by simp) gives
  | loader => exact Or.inr fun none => none.mem (rfl : _ = [_, given] ++ f.history) (by simp) gives

end Breaks

theorem attach_cases (backend : Backend) (f : Follower) :
    f.LinksHold ∧ (attach backend).run f = (.ok (), f.attached backend) ∨
      ∃ text g, (attach backend).run f = (.error (.panicked text), g) ∧ ¬ f.LinksHold ∧
        (f.Holds .backendLink → Breaks backend f g) := by
  unfold attach
  rw [run_bind]
  rcases setWalletLink_cases (some backend.link) f with ⟨given, came⟩ | ⟨breaks, text, came⟩
  · rw [came]
    dsimp only
    rw [run_bind]
    rcases setLoaderLink_cases (some backend.link) (f.walletLinked (some backend.link))
      with ⟨taken, came⟩ | ⟨breaks, text, came⟩
    · rw [came]
      exact Or.inl ⟨⟨given, taken⟩, rfl⟩
    · rw [came]
      refine Or.inr ⟨text, _, rfl, fun hold => breaks hold.loader, fun holds => ?_⟩
      exact .loader holds given breaks
  · rw [came]
    refine Or.inr ⟨text, _, rfl, fun hold => breaks hold.wallet, fun holds => ?_⟩
    exact .wallet holds breaks

theorem launch_cases (attempt : Nat) (backend : Backend) (f : Follower) :
    f.Calm ∧ (launch attempt backend).run f =
        (.ok (((f.attached backend).announced backend).counts.syncs + 1),
          ((f.attached backend).announced backend).withRun attempt backend) ∨
      ∃ text g, (launch attempt backend).run f = (.error (.panicked text), g) ∧
        Breaks backend f g := by
  unfold launch
  rw [run_bind]
  rcases panicAt_cases .backendLink f with ⟨holds, came⟩ | ⟨breaks, text, came⟩
  · rw [came]
    dsimp only
    rw [run_bind]
    rcases attach_cases backend f with ⟨hold, came⟩ | ⟨text, g, came, _, breaks⟩
    · rw [came]
      refine Or.inl ⟨⟨hold, holds⟩, ?_⟩
      unfold announced
      dsimp only
      cases backend.kind.reportsPeers <;> rfl
    · rw [came]
      exact Or.inr ⟨text, g, rfl, breaks holds⟩
  · rw [came]
    exact Or.inr ⟨text, f, rfl, .backend breaks⟩

theorem SameSync.announced (f : Follower) (backend : Backend) : SameSync f (f.announced backend) := by
  unfold Follower.announced
  split
  · exact refl f
  · exact broadcast f rfl

theorem launched_launch (attempt : Nat) (backend : Backend) (f : Follower) :
    Launched attempt backend f ((launch attempt backend).run f) := by
  rcases launch_cases attempt backend f with ⟨_, came⟩ | ⟨text, g, came, breaks⟩
  · rw [came]
    exact .done (SameSync.announced _ backend)
  · rw [came]
    exact .panicked breaks.uncalm breaks.stays breaks.links

inductive StartComesTo (config : BackendConfig) (f : Follower) :
    Except Stop Started × Follower → Prop where
  | barred {e : SyncError} (bars : f.startBarrier? = some e) :
    StartComesTo config f (.error (.failed e), f)
  | stopped {stop : Stop} {g : Follower} (free : f.startBarrier? = none)
      (sync : SameSync (f.entered config) g) (late : stop.Late) :
    StartComesTo config f (.error stop, g.abortStart)
  | waiting (client : Client) (server : String) {g : Follower} (free : f.startBarrier? = none)
      (sync : SameSync (f.entered config) g) :
    StartComesTo config f (.ok .pending,
      { g with starts := g.starts ++ [⟨f.counts.startAttempts + 1, client, server⟩] })
  | launched {backend : Backend} {number : Nat} {g h : Follower} (free : f.startBarrier? = none)
      (sync : SameSync (f.entered config) g)
      (launched : Launched (f.counts.startAttempts + 1) backend g (.ok number, h)) :
    StartComesTo config f (.ok (.launched number), h)
  | panicked (backend : Backend) {text : String} {g h : Follower} (free : f.startBarrier? = none)
      (sync : SameSync (f.entered config) g)
      (launched : Launched (f.counts.startAttempts + 1) backend g (.error (.panicked text), h)) :
    StartComesTo config f (.error (.panicked text), h)

theorem comesTo_startSync (config : BackendConfig) (f : Follower) :
    StartComesTo config f ((startSync config).run f) := by
  rw [run_startSync]
  cases barrier : f.startBarrier? with
  | some e => exact .barred barrier
  | none =>
    have built := built_build (f.counts.startAttempts + 1) config (f.entered config)
    dsimp only
    revert built
    generalize (build (f.counts.startAttempts + 1) config).run (f.entered config) = result
    intro built
    cases built with
    | @ready backend g sync =>
      have launch := launched_launch (f.counts.startAttempts + 1) backend g
      dsimp only
      rw [run_map]
      revert launch
      generalize (Follower.launch (f.counts.startAttempts + 1) backend).run g = result
      intro launch
      cases launch with
      | done told => exact .launched barrier sync (.done told)
      | panicked breaks stays links =>
        exact .panicked backend barrier sync (.panicked breaks stays links)
    | waiting client server sync => exact .waiting client server barrier sync
    | @stopped stop g sync late =>
      exact .stopped barrier (sync.trans (SameTasksAndClient.warn g stop).sameSync) late

inductive ResumeComesTo (start : PendingStart) (reply : Reply ConnectError) (f : Follower) :
    Except Stop Nat × Follower → Prop where
  | stopped {stop : Stop} {g : Follower} (sync : SameSync f g) (late : stop.Late) :
    ResumeComesTo start reply f (.error stop, g.abortStart)
  | built {backend : Backend} {g : Follower} {result : Except Stop Nat × Follower}
      (accepted : reply = .ok) (sync : SameSync f g)
      (launched : Launched start.attempt backend g result) :
    ResumeComesTo start reply f result

theorem connected_accepted {attempt : Nat} {client : Client} {address : String}
    {reply : Reply ConnectError} {backend : Backend} {f g : Follower}
    (came : (connected attempt client address reply).run f = (.ok backend, g)) : reply = .ok := by
  cases reply with
  | ok => rfl
  | error e => cases congrArg Prod.fst came
  | panic text => cases congrArg Prod.fst came

theorem comesTo_resumeStart (start : PendingStart) (reply : Reply ConnectError) (f : Follower) :
    ResumeComesTo start reply f ((resumeStart start reply).run f) := by
  rw [run_resumeStart]
  have building := builds_connected start.attempt start.client start.address reply
  have sync := building.sameSync f
  cases came : (connected start.attempt start.client start.address reply).run f with
  | mk result g =>
    rw [came] at sync
    cases result with
    | error stop =>
      have warned := sync.trans (SameTasksAndClient.warn g stop).sameSync
      exact .stopped warned (building.late f stop g came)
    | ok backend =>
      exact .built (connected_accepted came) sync (launched_launch start.attempt backend g)

/-- What the parts of a start keep, a start keeps as a whole. -/
structure StartKeeps (related : Follower → Follower → Prop) : Prop where
  stays : ∀ {f g}, SameSessions f g → related f g
  entered : ∀ f config, related f (f.entered config)
  waits : ∀ (f : Follower) starts, related f { f with starts := starts }
  aborted : ∀ f, related f (abortStart f)
  attached : ∀ f backend, related f (f.attached backend)
  ran : ∀ f attempt backend, related f (f.withRun attempt backend)

namespace StartKeeps

variable {related : Follower → Follower → Prop} [IsTrans Follower related] {f g : Follower}

theorem launched (keeps : StartKeeps related) {attempt : Nat} {backend : Backend}
    {result : Except Stop Nat} (launched : Launched attempt backend f (result, g)) :
    related f g := by
  cases launched with
  | @done h sync =>
    have told : related f h :=
      IsTrans.trans _ _ _ (keeps.attached f backend) (keeps.stays (SameSessions.of_sameSync sync))
    exact IsTrans.trans _ _ _ told (keeps.ran h attempt backend)
  | panicked breaks stays links => exact keeps.stays stays

theorem started (keeps : StartKeeps related) {config : BackendConfig}
    {result : Except Stop Started} (start : StartComesTo config f (result, g)) : related f g := by
  have built {h : Follower} (sync : SameSync (f.entered config) h) : related f h :=
    IsTrans.trans _ _ _ (keeps.entered f config) (keeps.stays (SameSessions.of_sameSync sync))
  cases start with
  | barred bars => exact keeps.stays (SameSessions.refl f)
  | stopped free sync late => exact IsTrans.trans _ _ _ (built sync) (keeps.aborted _)
  | waiting client server free sync => exact IsTrans.trans _ _ _ (built sync) (keeps.waits _ _)
  | launched free sync launch => exact IsTrans.trans _ _ _ (built sync) (keeps.launched launch)
  | panicked other free sync launch =>
    exact IsTrans.trans _ _ _ (built sync) (keeps.launched launch)

theorem resumed (keeps : StartKeeps related) {start : PendingStart} {reply : Reply ConnectError}
    {result : Except Stop Nat} (resume : ResumeComesTo start reply f (result, g)) :
    related f g := by
  cases resume with
  | stopped sync late =>
    exact IsTrans.trans _ _ _ (keeps.stays (SameSessions.of_sameSync sync)) (keeps.aborted _)
  | built accepted sync launch =>
    exact IsTrans.trans _ _ _ (keeps.stays (SameSessions.of_sameSync sync)) (keeps.launched launch)

end StartKeeps

theorem abortStart_history (f : Follower) :
    f.abortStart.history = .stateSet .idle :: f.history := by
  unfold abortStart cancelQuietly
  split <;> rfl

/-- No part of a start tells listeners of an end. -/
theorem startKeeps_silent : StartKeeps (Without Happening.TellsEnd) where
  stays := SameSessions.silent
  entered _ config :=
    ⟨[.logged (.starting config), .stateSet .starting], rfl, by simp [Happening.TellsEnd]⟩
  waits _ _ := Without.of_same rfl
  aborted f := ⟨[.stateSet .idle], abortStart_history f, by simp [Happening.TellsEnd]⟩
  attached _ _ := ⟨[_, _, _], rfl, by simp [Happening.TellsEnd]⟩
  ran _ _ _ := Without.of_same rfl

end ChainFollower.Follower

import ChainFollower.Proofs.Course
import ChainFollower.Proofs.Jobs

/-! The configuration is given once. Whatever is called and however the tasks go on, a follower has the
one that it was set up with. -/
namespace ChainFollower

namespace Follower

open Act

def SameConfig (f g : Follower) : Prop :=
  g.config = f.config

instance : Std.Refl SameConfig := ⟨fun _ => rfl⟩

instance : IsTrans Follower SameConfig := ⟨fun _ _ _ first second => Eq.trans second first⟩

theorem Told.sameConfig {sent : Event → Prop} {f g : Follower} (told : Told sent f g) :
    SameConfig f g := by
  obtain ⟨ls, ts, hs, rfl, -⟩ := told
  rfl

namespace SameConfig

variable {f g h : Follower} {α : Type}

theorem trans (first : SameConfig f g) (second : SameConfig g h) : SameConfig f h :=
  Eq.trans second first

theorem call {sight : Sight} (place : Place) {next : Act (Except WalletError α)}
    (rest : Keeps SameConfig next) :
    Keeps SameConfig (do
      Act.update (fun f => f.saw sight)
      match ← Act.fault place with
      | some e => pure (.error e)
      | none => next) := by
  have seen (f : Follower) : SameConfig f (f.saw sight) := rfl
  exact keeps_call seen place rest

theorem setWalletLink (link : Option Link) : Keeps SameConfig (setWalletLink link) := by
  refine keeps_bind (keeps_update fun f => rfl) fun _ => ?_
  exact keeps_bind (keeps_panicAt _) fun _ => keeps_update fun f => rfl

theorem setLoaderLink (link : Option Link) : Keeps SameConfig (setLoaderLink link) := by
  refine keeps_bind (keeps_update fun f => rfl) fun _ => ?_
  exact keeps_bind (keeps_panicAt _) fun _ => keeps_update fun f => rfl

theorem nextAddress : Keeps SameConfig Follower.nextAddress := by
  refine keeps_orError .nextAddress (keeps_bind keeps_get fun f => ?_)
  exact keeps_bind (keeps_update fun f => rfl) fun _ => keeps_pure _

theorem exists? : Keeps SameConfig Follower.exists? :=
  keeps_bind (keeps_orError .walletExists (keeps_bind keeps_get fun _ => keeps_pure _)) keeps_orFail

theorem noteRecord (record : LogRecord) : Keeps SameConfig (Act.update fun f => f.log record) :=
  keeps_update fun _ => rfl

theorem create (passphrase seed : String) : Keeps SameConfig (Follower.create passphrase seed) := by
  unfold Follower.create
  refine keeps_bind (noteRecord _) fun _ => ?_
  split
  · exact keeps_fail _
  · split
    · exact keeps_bind (noteRecord _) fun _ => keeps_fail _
    · refine keeps_bind (call .create (keeps_orChange fun f => rfl)) fun result => ?_
      cases result with
      | error e => exact keeps_bind (noteRecord _) fun _ => keeps_fail _
      | ok value => exact noteRecord _

theorem openWallet (publicPass : Bytes) : Keeps SameConfig (Follower.openWallet publicPass) := by
  refine call .openWallet (keeps_bind keeps_get fun f => ?_)
  split
  · exact keeps_pure _
  · split
    · exact keeps_pure _
    · exact keeps_bind (keeps_update fun f => rfl) fun _ => keeps_pure _

theorem initIndex (path : String) : Keeps SameConfig (Follower.initIndex path) := by
  refine call .indexInit (keeps_bind nextAddress fun result => ?_)
  cases result with
  | error e => exact keeps_pure _
  | ok address =>
    refine keeps_bind (keeps_update fun f => rfl) fun _ => keeps_bind keeps_get fun f => ?_
    exact keeps_bind (keeps_update fun f => rfl) fun _ => keeps_pure _

theorem openAll (publicPass : Bytes) : Keeps SameConfig (Follower.openAll publicPass) := by
  refine keeps_bind (openWallet publicPass) fun result => ?_
  cases result with
  | error e => exact keeps_bind (noteRecord _) fun _ => keeps_fail _
  | ok value =>
    refine keeps_bind keeps_get fun f => keeps_bind (initIndex _) fun index => ?_
    cases index with
    | error e => exact keeps_bind (noteRecord _) fun _ => keeps_fail _
    | ok number => exact keeps_bind (keeps_update fun f => rfl) fun _ => noteRecord _

theorem unlockWallet (passphrase : Bytes) : Keeps SameConfig (Follower.unlockWallet passphrase) :=
  call .unlock (keeps_orChange fun _ => rfl)

theorem changePrivate (old new : Bytes) : Keeps SameConfig (Follower.changePrivate old new) :=
  call .changePrivate (keeps_orChange fun _ => rfl)

theorem changePublic (old new : Bytes) : Keeps SameConfig (Follower.changePublic old new) :=
  call .changePublic (keeps_orChange fun _ => rfl)

theorem unlock (passphrase : Bytes) (f : Follower) : SameConfig f (f.unlock passphrase).2 := by
  rw [unlock_eq]
  exact keeps_required (unlockWallet passphrase) f

theorem changePrivatePass (old new : Bytes) (f : Follower) :
    SameConfig f (f.changePrivatePass old new).2 :=
  related_changePass changePrivate old new f

theorem changePublicPass (old new : Bytes) (f : Follower) :
    SameConfig f (f.changePublicPass old new).2 :=
  related_changePass (fun _ _ => changePublic _ _) old new f

theorem lock (f : Follower) : SameConfig f f.lock := by
  unfold Follower.lock
  split <;> rfl

theorem close : Keeps SameConfig Follower.close := by
  have unload : Keeps SameConfig unloadWallet :=
    call .unload (keeps_bind (keeps_update fun f => rfl) fun _ => keeps_pure _)
  refine keeps_bind (keeps_unlink (setWalletLink none) (setLoaderLink none)) fun _ => ?_
  have dropped : Keeps SameConfig dropIndex :=
    keeps_dropIndex (fun _ => rfl) (fun _ _ => rfl) fun _ _ => rfl
  refine keeps_bind dropped fun _ => ?_
  exact keeps_bind unload fun result => keeps_bind (keeps_orFail result) fun _ => noteRecord _

theorem bestTimestamp : Keeps SameConfig Follower.bestTimestamp := by
  have blockInfo (height : Height) : Keeps SameConfig (Follower.blockInfo height) := by
    refine call .blockInfo (keeps_bind keeps_get fun f => ?_)
    split <;> exact keeps_pure _
  refine keeps_bind keeps_get fun f => ?_
  split
  · refine keeps_bind (blockInfo _) fun result => ?_
    cases result with
    | error e => exact keeps_bind (noteRecord _) fun _ => keeps_pure _
    | ok block => exact keeps_bind (noteRecord _) fun _ => keeps_pure _
  · exact keeps_pure _

theorem broadcast (f : Follower) (event : Event) : SameConfig f (f.broadcast event) :=
  (Told.broadcast event f).sameConfig

theorem cancelQuietly (f : Follower) : SameConfig f f.cancelQuietly := by
  unfold Follower.cancelQuietly
  split <;> rfl

theorem cancelTasks (f : Follower) : SameConfig f f.cancelQuietly.cancelRescan :=
  (cancelQuietly f).trans (@Told.cancelRescan (fun _ => True) _).sameConfig

theorem abortStart (f : Follower) : SameConfig f f.abortStart := cancelQuietly f

theorem orAbort_warned {work : Act α} (kept : Keeps SameConfig work) :
    Keeps SameConfig (orAbort (warned work)) := by
  intro f
  have same := kept f
  rw [run_orAbort_warned]
  revert same
  rcases work.run f with ⟨stop | value, g⟩
  · intro same
    have warned : SameConfig g (g.warn stop) := by cases stop <;> rfl
    exact same.trans (warned.trans (abortStart _))
  · exact id

theorem normalizeEach (port : UInt16) (peers : List String) (f : Follower) :
    SameConfig f (Follower.normalizeEach port peers f).2 := by
  induction peers generalizing f with
  | nil => rfl
  | cons peer rest ih =>
    unfold Follower.normalizeEach
    split
    · exact ih f
    · rename_i e _
      exact (broadcast (f.log (.peerInvalid e)) _).trans (ih _)

theorem panicCall (sight : Sight) (place : Place) :
    Keeps SameConfig (do
      Act.update (fun f => f.saw sight)
      Act.panicAt place) :=
  keeps_bind (keeps_update fun _ => rfl) fun _ => keeps_panicAt _

theorem buildSpv (peers : List String) : Keeps SameConfig (Follower.buildSpv peers) := by
  have normalizePeers : Keeps SameConfig (Follower.normalizePeers peers) := by
    unfold Follower.normalizePeers
    split
    · exact keeps_pure _
    · refine keeps_become (fun f => normalizeEach _ _ f) fun f => ?_
      split
      · exact keeps_fail _
      · exact keeps_pure _
  have makeSpvSyncer : Keeps SameConfig Follower.makeSpvSyncer := by
    refine keeps_bind keeps_get fun f => keeps_bind (keeps_update fun f => rfl) fun _ => ?_
    refine keeps_bind (keeps_update fun f => rfl) fun _ => keeps_bind (keeps_panicAt _) fun _ => ?_
    exact keeps_bind (keeps_update fun f => rfl) fun _ => keeps_pure _
  refine keeps_bind normalizePeers fun addresses => keeps_bind makeSpvSyncer fun number => ?_
  refine keeps_bind (panicCall _ _) fun _ => keeps_bind ?_ fun _ => keeps_pure _
  unfold restrictPeers
  split
  · exact keeps_bind (noteRecord _) fun _ => panicCall _ _
  · exact keeps_pure _

theorem buildRpc (client : Client) : Keeps SameConfig (Follower.buildRpc client) := by
  have makeRpcSyncer : Keeps SameConfig (Follower.makeRpcSyncer client) := by
    refine keeps_bind keeps_get fun f => keeps_bind (keeps_update fun f => rfl) fun _ => ?_
    refine keeps_bind (keeps_update fun f => rfl) fun _ => keeps_bind (keeps_panicAt _) fun _ => ?_
    exact keeps_bind (keeps_update fun f => rfl) fun _ => keeps_pure _
  exact keeps_bind makeRpcSyncer fun _ => keeps_bind (panicCall _ _) fun _ => keeps_pure _

theorem keepClient (f : Follower) (client : Client) : SameConfig f (f.keepClient client).1 := by
  unfold Follower.keepClient
  dsimp only
  split <;> rfl

theorem connected (attempt : Nat) (client : Client) (address : String)
    (reply : Reply ConnectError) :
    Keeps SameConfig (Follower.connected attempt client address reply) := by
  cases reply with
  | ok =>
    refine keeps_bind (noteRecord _) fun _ => ?_
    exact keeps_become (fun f => keepClient f client) fun f => buildRpc _
  | error e =>
    exact keeps_bind (noteRecord _) fun _ => keeps_bind keeps_get fun _ => keeps_fail _
  | panic text => exact keeps_throw _

theorem connect (attempt : Nat) (address username password : String) (certificate : Bytes) :
    Keeps SameConfig (Follower.connect attempt address username password certificate) := by
  refine keeps_bind keeps_get fun f => ?_
  dsimp only
  split
  · exact keeps_fail _
  · refine keeps_bind (noteRecord _) fun _ => keeps_bind (call .rpcClient ?_) fun made => ?_
    · refine keeps_bind keeps_get fun f => ?_
      exact keeps_bind (keeps_update fun f => rfl) fun _ => keeps_pure _
    · cases made with
      | error e => exact keeps_fail _
      | ok client =>
        refine keeps_bind (keeps_update fun f => rfl) fun _ => keeps_bind keeps_get fun f => ?_
        split
        · exact keeps_map some (connected _ _ _ _)
        · exact keeps_bind (keeps_update fun f => rfl) fun _ => keeps_pure _

theorem build (attempt : Nat) (config : BackendConfig) :
    Keeps SameConfig (Follower.build attempt config) := by
  cases config with
  | spv peers => exact keeps_map some (buildSpv peers)
  | rpc address username password certificate =>
    refine keeps_bind keeps_get fun f => ?_
    split
    · exact keeps_bind (noteRecord _) fun _ => keeps_map some (buildRpc _)
    · exact connect attempt address username password _

theorem launch (attempt : Nat) (backend : Backend) :
    Keeps SameConfig (Follower.launch attempt backend) := by
  have attach : Keeps SameConfig (Follower.attach backend) := by
    refine keeps_bind (setWalletLink _) fun _ => keeps_bind (setLoaderLink _) fun _ => ?_
    exact keeps_bind (keeps_update fun f => rfl) fun _ => keeps_update fun f => rfl
  have counted : Keeps SameConfig (do
      let number := (← get).counts.syncs + 1
      Act.update (fun f => { f with
        counts := { f.counts with syncs := number }
        runs := f.runs ++ [⟨number, attempt, backend, false⟩] })
      pure number : Act Nat) := by
    refine keeps_bind keeps_get fun f => ?_
    exact keeps_bind (keeps_update fun f => rfl) fun _ => keeps_pure _
  refine keeps_bind (keeps_panicAt _) fun _ => keeps_bind attach fun _ => ?_
  split
  · exact keeps_bind (keeps_update fun f => broadcast f _) fun _ => counted
  · exact counted

theorem startSync (config : BackendConfig) : Keeps SameConfig (Follower.startSync config) := by
  intro f
  cases free : f.startBarrier? with
  | some e =>
    rw [run_startSync, free]
    rfl
  | none =>
    have entered : SameConfig f (f.entered config) := rfl
    rw [run_startSync_free free]
    refine entered.trans (keeps_bind (orAbort_warned (build _ config)) (fun found => ?_) _)
    cases found with
    | none => exact keeps_pure _
    | some backend => exact keeps_map Started.launched (launch _ backend)

theorem resumeStart (start : PendingStart) (reply : Reply ConnectError) :
    Keeps SameConfig (Follower.resumeStart start reply) :=
  keeps_bind (orAbort_warned (connected _ _ _ _)) fun backend => launch _ backend

theorem notify (kind : BackendKind) (notification : Notification) (f : Follower) :
    SameConfig f (f.notify kind notification) :=
  related_notify (fun _ _ => rfl) (fun f event _ => broadcast f event) (fun _ => rfl) kind
    notification f

theorem callRun (f : Follower) (run : RunLoop) : SameConfig f (f.callRun run) := by
  refine SameConfig.trans ?_ (related_notifyEach notify _ _ _)
  rfl

theorem invalidateCache (f : Follower) : SameConfig f f.invalidateCache := by
  unfold Follower.invalidateCache
  dsimp only
  split <;> rfl

theorem reportEnd (f : Follower) (kind : BackendKind) (result : Option RunError) :
    SameConfig f (f.reportEnd kind result) :=
  (told_reportEnd f kind result).sameConfig

theorem endRun (run : RunLoop) (reply : Reply RunError) :
    Keeps SameConfig (Follower.endRun run reply) := by
  have detach : Keeps SameConfig Follower.detach := by
    refine keeps_bind (keeps_update fun f => rfl) fun _ => ?_
    refine keeps_bind (setWalletLink _) fun _ => keeps_bind (setLoaderLink _) fun _ => ?_
    exact keeps_update fun f => rfl
  have concludeRun (result : Option RunError) :
      Keeps SameConfig (Follower.concludeRun run.backend result) := by
    have rest : Keeps SameConfig (do
        Follower.detach
        Act.update (fun f => f.reportEnd run.backend.kind result)
        pure (SyncOutcome.ofRun result) : Act SyncOutcome) :=
      keeps_bind detach fun _ => keeps_bind (keeps_update fun f => reportEnd f _ _) fun _ =>
        keeps_pure _
    refine keeps_bind (keeps_update fun f => rfl) fun _ => ?_
    split
    · exact keeps_bind (keeps_update invalidateCache) fun _ => rest
    · exact rest
  cases reply with
  | ok => exact concludeRun none
  | error e => exact concludeRun (some e)
  | panic text => exact keeps_throw _

theorem finishRun (f : Follower) (run : RunLoop) (reply : Reply RunError) :
    SameConfig f (f.finishRun run reply) := by
  have ended : SameConfig f ((Follower.endRun run reply).run (f.withoutRun run)).2 :=
    endRun run reply (f.withoutRun run)
  unfold Follower.finishRun
  dsimp only
  split
  all_goals
    rename_i came
    change (Follower.endRun run reply).run (f.withoutRun run) = _ at came
    rw [came] at ended
    exact ended

theorem abandonStart (f : Follower) : SameConfig f f.abandonStart.1 := by
  unfold Follower.abandonStart
  split
  · rfl
  · exact abortStart { f with starts := _ }

theorem startRescan (f : Follower) : SameConfig f f.startRescan.1 := by
  unfold Follower.startRescan
  split
  · rfl
  · dsimp only
    split <;> rfl

theorem produce {job after : RescanJob} (stepped : f.produce job = some (g, after)) :
    SameConfig f g := by
  unfold Follower.produce at stepped
  dsimp only at stepped
  repeat' split at stepped
  all_goals first
    | contradiction
    | exact (Prod.mk.inj (Option.some.inj stepped)).1 ▸ rfl

theorem logProgress (f : Follower) (tracker : Tracker) (force : Bool) :
    SameConfig f (f.logProgress tracker force).1 := by
  unfold Follower.logProgress
  dsimp only
  split <;> rfl

theorem takeReport (f : Follower) (job : RescanJob) (rest : List Report) (report : Report) :
    SameConfig f (f.takeReport job rest report).1 := by
  cases report with
  | height h => exact (broadcast f _).trans (logProgress _ _ false)
  | failure e =>
    exact broadcast ((f.log (.rescanFailed e)).cancel (.rescan job.attempt)) _

theorem closeRescan (f : Follower) (job : RescanJob) : SameConfig f (f.closeRescan job).1 := by
  unfold Follower.closeRescan
  dsimp only
  split
  · exact broadcast ((f.log (.rescanSummary job.tracker)).log (.rescanCanceled _)) _
  · exact (logProgress (f.log (.rescanSummary job.tracker)) _ true).trans (broadcast _ _)

theorem consume {job after : RescanJob} (stepped : f.consume job = some (g, after)) :
    SameConfig f g := by
  unfold Follower.consume at stepped
  split at stepped
  · contradiction
  · split at stepped
    · exact (Prod.mk.inj (Option.some.inj stepped)).1 ▸ takeReport f job _ _
    · split at stepped
      · exact (Prod.mk.inj (Option.some.inj stepped)).1 ▸ closeRescan f job
      · contradiction

theorem rescanTurn {step : Follower → RescanJob → Option (Follower × RescanJob)}
    (steps : ∀ {f g job after}, step f job = some (g, after) → SameConfig f g) {number : Nat}
    (turned : f.rescanTurn step number = some g) : SameConfig f g := by
  obtain ⟨job, -, -, e, after, stepped, rfl⟩ := rescanTurn_cases turned
  have taken : SameConfig f e := steps stepped
  exact taken

theorem perform (step : Scenario.Step) (f : Follower) : SameConfig f (step.perform f).2 := by
  cases step with
  | exists? => exact exists? f
  | create passphrase seed => exact create passphrase seed f
  | openWallet publicPass => exact openAll publicPass f
  | unlock passphrase => exact unlock passphrase f
  | changePrivate old new => exact changePrivatePass old new f
  | changePublic old new => exact changePublicPass old new f
  | lock => exact lock f
  | close => exact close f
  | closeWallet => exact (cancelTasks f).trans (close _)
  | indexAddress =>
    simp only [Scenario.Step.perform]
    split
    · exact nextAddress f
    · rfl
  | start config => exact startSync config f
  | abandonStart => exact abandonStart f
  | cancelSync => exact (Told.cancelSync f).sameConfig
  | cancelRescan => exact (@Told.cancelRescan (fun _ => True) f).sameConfig
  | bestTimestamp => exact keeps_map Int64.toInt bestTimestamp f
  | cacheStore => exact keepClient { f with counts := _ } _
  | cacheInvalidate => exact invalidateCache f
  | startRescan => exact startRescan f
  | notify notification =>
    simp only [Scenario.Step.perform]
    split
    · rfl
    · exact notify _ notification f
  | endRun reply =>
    simp only [Scenario.Step.perform, Scenario.Step.flagOf, Scenario.Step.releaseRun]
    split <;> rfl
  | releaseConnect reply =>
    simp only [Scenario.Step.perform, Scenario.Step.flagOf, Scenario.Step.releaseClient]
    split <;> rfl
  | rescanFeed items ending =>
    simp only [Scenario.Step.perform, Scenario.Step.flagOf, Scenario.Step.feed]
    split <;> rfl
  | fail place fault =>
    simp only [Scenario.Step.perform, Scenario.Step.setFault]
    split <;> rfl
  | _ => rfl

/-- No move changes the configuration. -/
theorem moved {move : Move} (made : f.move? move = some g) : SameConfig f g := by
  cases move with
  | step step =>
    cases made
    exact perform step f
  | notice kind notification =>
    cases made
    exact notify kind notification f
  | connection attempt reply =>
    obtain ⟨start, -, rfl⟩ := Option.map_eq_some_iff.mp made
    rw [finishStart_eq]
    exact resumeStart start reply { f with starts := _ }
  | call number =>
    obtain ⟨run, -, rest⟩ := Option.bind_eq_some_iff.mp made
    split at rest
    · contradiction
    · cases rest
      exact callRun f run
  | runEnds number reply =>
    obtain ⟨run, -, rest⟩ := Option.bind_eq_some_iff.mp made
    split at rest
    · cases rest
      exact finishRun f run reply
    · contradiction
  | produce number =>
    have turned : f.rescanTurn Follower.produce number = some g := made
    exact rescanTurn produce turned
  | consume number =>
    have turned : f.rescanTurn Follower.consume number = some g := made
    exact rescanTurn consume turned

end SameConfig

end Follower

namespace Course

open Follower

/-- However a run goes on, its follower has the configuration that it began with. -/
theorem Ran.sameConfig {allowed : Follower → Move → Follower → Prop} {c d : Course}
    (ran : Ran allowed c d) : SameConfig c.follower d.follower := by
  induction ran with
  | start => rfl
  | move before made may ih => exact ih.trans (SameConfig.moved made)

end Course

end ChainFollower

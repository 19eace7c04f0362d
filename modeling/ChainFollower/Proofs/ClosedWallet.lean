import ChainFollower.Proofs.FailedStart
import ChainFollower.Proofs.Releasing

/-! Closing the wallet takes its backend and the loader's away for good, but for a start that waits
for its connection while the wallet is closed: it attaches its backend when the connection comes. -/
namespace ChainFollower

namespace Follower

open Act

def Linkless (f : Follower) : Prop := f.wallet.link = none ∧ f.loader.link = none

theorem Unlinks.linkless {f g : Follower} (unlinks : Unlinks f g) (none : f.Linkless) :
    g.Linkless := by
  constructor
  · rcases unlinks.wallet with same | gone
    · exact same.trans none.1
    · exact gone
  · rcases unlinks.loader with same | gone
    · exact same.trans none.2
    · exact gone

theorem Unattached.linkless {f g : Follower} (unattached : Unattached f g) (none : f.Linkless) :
    g.Linkless :=
  ⟨unattached.walletLink.trans none.1, unattached.loaderLink.trans none.2⟩

/-- Closing takes the loader's link, and that of a wallet that is loaded. -/
theorem close_links {f g : Follower} (done : close.run f = (.ok (), g)) :
    g.loader.link = none ∧ g.wallet.link = if f.loader.loaded then none else f.wallet.link := by
  have comes := comesTo_close f
  have links := links_unindexed f
  rw [done] at comes
  cases comes with
  | closed agrees logged => rcases logged with rfl | ⟨record, rfl⟩ <;> exact links

/-- With this reply of its connection a start attaches its backend to the wallet. -/
def WouldAttach (f : Follower) (reply : Reply ConnectError) : Prop :=
  reply = .ok ∧
    ∀ place ∈ [Place.rpcSyncer, .notifications, .backendLink, .walletBackend], f.Holds place

theorem needs_buildRpc (client : Client) :
    Needs [.rpcSyncer, .notifications] (buildRpc client) := by
  have syncer : Needs [.rpcSyncer] (makeRpcSyncer client) := by
    refine needs_bind needs_get (fun f => ?_) rfl
    refine needs_bind (needs_update fun _ => rfl) (fun _ => ?_) rfl
    refine needs_bind (needs_update fun _ => rfl) (fun _ => ?_) rfl
    refine needs_bind (needs_panicAt .rpcSyncer) (fun _ => ?_) rfl
    exact needs_bind (needs_update fun _ => rfl) (fun _ => needs_pure _) rfl
  have notifications (number : Nat) : Needs [.notifications] (setNotifications ⟨.rpc, number⟩) :=
    needs_bind (needs_update fun _ => rfl) (fun _ => needs_panicAt .notifications) rfl
  refine needs_bind syncer (fun number => ?_) rfl
  exact needs_bind (notifications number) (fun _ => needs_pure _) rfl

theorem attach_wallet {backend : Backend} {f : Follower} (hold : f.Holds .walletBackend) :
    ((attach backend).run f).2.wallet.link = some backend.link := by
  unfold attach
  rw [run_bind]
  rcases setWalletLink_cases (some backend.link) f with ⟨_, came⟩ | ⟨breaks, _⟩
  · rw [came]
    dsimp only
    rw [run_bind]
    rcases setLoaderLink_cases (some backend.link) (f.walletLinked (some backend.link))
      with ⟨_, came⟩ | ⟨_, text, came⟩
    · rw [came]
      rfl
    · rw [came]
      rfl
  · exact absurd hold breaks

/-- A launch gives the wallet its link if neither the backend nor the wallet panics. -/
theorem launch_wallet {attempt : Nat} {backend : Backend} {f : Follower}
    (asked : f.Holds .backendLink) (given : f.Holds .walletBackend) :
    ((launch attempt backend).run f).2.wallet.link = some backend.link := by
  have link : ((attach backend).run f).2.wallet.link = some backend.link := attach_wallet given
  unfold launch
  rw [run_bind]
  rcases panicAt_cases .backendLink f with ⟨_, came⟩ | ⟨breaks, _⟩
  · rw [came]
    dsimp only
    rw [run_bind]
    cases attaching : (attach backend).run f with
    | mk result g =>
      rw [attaching] at link
      cases result with
      | error stop => exact link
      | ok value =>
        dsimp only
        split
        · have told : SameSync g (g.broadcast (.peerDisconnected (-1))) := SameSync.broadcast g rfl
          exact told.walletLink.trans link
        · exact link
  · exact absurd asked breaks

/-- If the backend or the wallet panics, a launch gives no link. -/
theorem launch_breaks {attempt : Nat} {backend : Backend} {f : Follower}
    (breaks : ¬ (f.Holds .backendLink ∧ f.Holds .walletBackend)) (none : f.Linkless) :
    ((launch attempt backend).run f).2.Linkless := by
  unfold launch
  rw [run_bind]
  rcases panicAt_cases .backendLink f with ⟨asked, came⟩ | ⟨_, text, came⟩
  · rw [came]
    dsimp only
    rw [run_bind]
    unfold attach
    rw [run_bind]
    rcases setWalletLink_cases (some backend.link) f with ⟨given, _⟩ | ⟨_, text, came⟩
    · exact absurd ⟨asked, given⟩ breaks
    · rw [came]
      exact none
  · rw [came]
    exact none

theorem resume_attaches {f : Follower} {start : PendingStart} {reply : Reply ConnectError}
    (attaches : f.WouldAttach reply) :
    ((resumeStart start reply).run f).2.wallet.link ≠ none := by
  obtain ⟨rfl, hold⟩ := attaches
  let kept := (f.log (.connected start.address)).keepClient start.client
  have faults : kept.1.faults = f.faults := (Dialled.keepClient _ start.client).sameTasks.faults
  have holds : ∀ place ∈ [Place.rpcSyncer, .notifications] ++ [.backendLink, .walletBackend],
      kept.1.Holds place := fun place member => (hold place member).of_faults faults
  obtain ⟨backend, g, came, same⟩ := (needs_buildRpc kept.2).done kept.1 fun place member =>
    holds place (List.mem_append_left _ member)
  have asked : g.Holds .backendLink := (holds .backendLink (by simp)).of_faults same
  have given : g.Holds .walletBackend := (holds .walletBackend (by simp)).of_faults same
  rw [run_resumeStart, run_connected_ok, came]
  dsimp only
  rw [launch_wallet asked given]
  exact Option.some_ne_none _

theorem resume_linkless {f : Follower} {start : PendingStart} {reply : Reply ConnectError}
    (stays : ¬ f.WouldAttach reply) (none : f.Linkless) :
    ((resumeStart start reply).run f).2.Linkless := by
  have aborted {g : Follower} (sync : SameSync f g) : g.abortStart.Linkless :=
    ((Unattached.of_sameSync sync).trans (Unattached.abortStart g)).linkless none
  rw [run_resumeStart]
  have sync := (builds_connected start.attempt start.client start.address reply).sameSync f
  cases came : (connected start.attempt start.client start.address reply).run f with
  | mk result g =>
    rw [came] at sync
    cases result with
    | error stop => exact aborted (sync.trans (SameTasksAndClient.warn g stop).sameSync)
    | ok backend =>
      refine launch_breaks (fun launches => stays ?_) ((Unattached.of_sameSync sync).linkless none)
      have accepted : reply = .ok := connected_accepted came
      subst accepted
      let kept := (f.log (.connected start.address)).keepClient start.client
      have faults : kept.1.faults = f.faults := (Dialled.keepClient _ start.client).sameTasks.faults
      -- The syncer was made, so making it did not panic.
      have made : ∀ place ∈ [Place.rpcSyncer, .notifications], f.Holds place := by
        intro place member
        apply Classical.byContradiction
        intro breaks
        obtain ⟨stop, h, stops⟩ := (needs_buildRpc kept.2).stopped kept.1 place member
          fun hold => breaks (hold.of_faults faults.symm)
        rw [run_connected_ok, stops] at came
        cases congrArg Prod.fst came
      refine ⟨rfl, fun place member => ?_⟩
      simp only [List.mem_cons, List.not_mem_nil, or_false] at member
      rcases member with rfl | rfl | rfl | rfl
      · exact made _ (by simp)
      · exact made _ (by simp)
      · exact launches.1.of_faults sync.faults.symm
      · exact launches.2.of_faults sync.faults.symm

/-- A launch that gives nobody a backend changes nothing. -/
theorem Launched.same {attempt : Nat} {backend : Backend} {f g : Follower}
    {result : Except Stop Nat} (launched : Launched attempt backend f (result, g))
    (none : Without Happening.Gives f g) : g = f := by
  cases launched with
  | @done h sync =>
    let given := Happening.saw (.walletBackend (some backend.link) f.session.state)
    have gives : given.Gives := trivial
    have told : Without Happening.TellsEnd (f.attached backend) h :=
      Without.of_sameSync (fun _ spares => spares.tells_no_end) sync
    have attaching :=
      none.init (startKeeps_silent.attached f backend) (told.trans (Without.of_same rfl))
    exact absurd gives (attaching.mem (rfl : _ = [_, _, given] ++ f.history) (by simp))
  | panicked breaks stays links =>
    rcases links with same | gives
    · exact same
    · exact absurd none gives

theorem StartComesTo.linkless {config : BackendConfig} {f g : Follower}
    {result : Except Stop Started} (start : StartComesTo config f (result, g))
    (apart : Without Happening.Gives f g) (none : f.Linkless) : g.Linkless := by
  have built {h : Follower} (sync : SameSync (f.entered config) h) : Unattached f h :=
    (Unattached.entered f config).trans (Unattached.of_sameSync sync)
  have silent {h : Follower} (sync : SameSync (f.entered config) h) :
      Without Happening.TellsEnd f h :=
    (startKeeps_silent.entered f config).trans
      (startKeeps_silent.stays (SameSessions.of_sameSync sync))
  cases start with
  | barred bars => exact none
  | @stopped stop h free sync late =>
    exact ((built sync).trans (Unattached.abortStart h)).linkless none
  | waiting client server free sync =>
    exact ((built sync).trans (Unattached.withStarts _ _)).linkless none
  | launched free sync launch =>
    rw [launch.same (apart.tail (silent sync) (startKeeps_silent.launched launch))]
    exact (built sync).linkless none
  | panicked other free sync launch =>
    rw [launch.same (apart.tail (silent sync) (startKeeps_silent.launched launch))]
    exact (built sync).linkless none

theorem ResumeComesTo.linkless {start : PendingStart} {reply : Reply ConnectError}
    {f g : Follower} {result : Except Stop Nat} (resume : ResumeComesTo start reply f (result, g))
    (apart : Without Happening.Gives f g) (none : f.Linkless) : g.Linkless := by
  cases resume with
  | @stopped stop h sync late =>
    exact ((Unattached.of_sameSync sync).trans (Unattached.abortStart h)).linkless none
  | built accepted sync launch =>
    have silent := Without.of_sameSync (fun _ spares => spares.tells_no_end) sync
    rw [launch.same (apart.tail silent (startKeeps_silent.launched launch))]
    exact (Unattached.of_sameSync sync).linkless none

/-- The move comes from none of those who can give a closed wallet a backend: nobody outside, no
start that was made since, and no start that waited when the wallet was closed. -/
def Apart (closed f : Follower) : Move → Follower → Prop
  | .step (.attach (some _)), _ => False
  | .step (.start _), g => Without Happening.Gives f g
  | .connection attempt reply, g =>
    if attempt ∈ closed.starts.map PendingStart.attempt then ¬ f.WouldAttach reply
    else Without Happening.Gives f g
  | _, _ => True

theorem linkless_step {closed f : Follower} {step : Scenario.Step}
    (apart : Apart closed f (.step step) (step.perform f).2) (none : f.Linkless) :
    (step.perform f).2.Linkless := by
  by_cases leaves : step.LeavesSync
  · exact (Unlinks.of_sameSync (Scenario.Step.sameSync_perform leaves f)).linkless none
  · cases step with
    | start config => exact (comesTo_startSync config f).linkless apart none
    | abandonStart =>
      simp only [Scenario.Step.perform, Scenario.Step.flagOf, Follower.abandonStart]
      split
      · exact none
      · rename_i rest _
        have left := (Unattached.withStarts f rest).trans (Unattached.abortStart _)
        exact (left.trans (Unattached.note _ id)).linkless none
    | close => exact (Unlinks.close f).linkless none
    | closeWallet =>
      have cancelled := (SameSync.cancelQuietly f).trans (SameSync.cancelRescan _)
      exact ((Unlinks.of_sameSync cancelled).trans (Unlinks.close _)).linkless none
    | notify notification =>
      simp only [Scenario.Step.perform]
      split
      · exact none
      · exact (Unlinks.notify _ _ f).linkless none
    | fail place fault =>
      simp only [Scenario.Step.perform, Scenario.Step.setFault]
      split <;> exact none
    | attach link =>
      cases link with
      | none => exact ⟨rfl, none.2⟩
      | some link => exact apart.elim
    | _ => exact absurd trivial leaves

theorem WouldAttach.of_faults {f g : Follower} {reply : Reply ConnectError}
    (attaches : f.WouldAttach reply) (same : g.faults = f.faults) : g.WouldAttach reply :=
  ⟨attaches.1, fun place member => (attaches.2 place member).of_faults same⟩

theorem linkless_finishStart {closed f : Follower} {start : PendingStart}
    {reply : Reply ConnectError}
    (apart : Apart closed f (.connection start.attempt reply) (f.finishStart start reply))
    (none : f.Linkless) : (f.finishStart start reply).Linkless := by
  let rest := f.starts.filter (fun other => other.attempt != start.attempt)
  have resume := comesTo_resumeStart start reply { f with starts := rest }
  have stays := @resume_linkless { f with starts := rest } start reply
  unfold Apart at apart
  rw [finishStart_eq] at apart ⊢
  dsimp only at apart ⊢
  generalize (resumeStart start reply).run { f with starts := rest } = result at *
  split at apart
  · exact stays (fun attaches => apart (attaches.of_faults rfl)) none
  · have begun : Without Happening.TellsEnd f { f with starts := rest } := Without.of_same rfl
    have noted : Without Happening.TellsEnd result.2
      (result.2.note (.startEnded (StartOutcome.ofResult result.1))) := Without.note _ id
    have silent := startKeeps_silent.resumed resume
    have resumed := (apart.init (begun.trans silent) noted).tail begun silent
    exact resume.linkless resumed none

theorem linkless_move {closed f g : Follower} {move : Move} (made : f.move? move = some g)
    (apart : Apart closed f move g) (none : f.Linkless) : g.Linkless := by
  cases move with
  | step step =>
    cases made
    exact linkless_step apart none
  | notice kind notification =>
    cases made
    exact (Unlinks.notify kind notification f).linkless none
  | connection attempt reply =>
    obtain ⟨start, found, rfl⟩ := Option.map_eq_some_iff.mp made
    have same : start.attempt = attempt := by simpa using List.find?_some found
    subst same
    exact linkless_finishStart apart none
  | call number =>
    obtain ⟨run, _, called⟩ := Option.bind_eq_some_iff.mp made
    split at called
    · contradiction
    · cases called
      exact (Unlinks.callRun f run).linkless none
  | runEnds number reply =>
    obtain ⟨run, _, ended⟩ := Option.bind_eq_some_iff.mp made
    split at ended
    · cases ended
      cases reply with
      | ok => exact (runReturned_finishRun f run Option.none).unlinks.linkless none
      | error e => exact (runReturned_finishRun f run (some e)).unlinks.linkless none
      | panic text => exact none
    · contradiction
  | produce number =>
    have turned : f.rescanTurn produce number = some g := made
    exact (Unlinks.of_sameSync (Rescans.rescanTurn Rescans.produce turned).sameSync).linkless none
  | consume number =>
    have turned : f.rescanTurn consume number = some g := made
    exact (Unlinks.of_sameSync (Rescans.rescanTurn Rescans.consume turned).sameSync).linkless none

end Follower

namespace Course

open Follower

/-- What a close that succeeded says about the backends from then on. -/
structure Closing (c : Course) (g : Follower) : Prop where
  starts : g.starts = c.follower.starts
  loader : g.loader.link = none
  /-- A wallet that is not loaded keeps the backend that it may have been given. -/
  wallet : g.wallet.link = none ↔ c.follower.loader.loaded = true ∨ c.follower.wallet.link = none
  /-- Apart from starts that waited for their connection, nothing brings a backend back. -/
  stays : g.wallet.link = none → ∀ d, Ran (Apart g) (c.next (.step .closeWallet) g) d →
    d.follower.wallet.link = none ∧ d.follower.loader.link = none
  /-- A start that waited when the wallet was closed still waits, and brings one back exactly if its
  connection comes about and nobody panics. -/
  returns : ∀ d, Ran (fun _ _ _ => True) (c.next (.step .closeWallet) g) d →
    d.follower.Linkless → ∀ start ∈ g.starts, start ∈ d.follower.starts → ∀ reply h,
      d.follower.move? (.connection start.attempt reply) = some h →
        (h.wallet.link ≠ none ↔ d.follower.WouldAttach reply)

theorem Ran.linkless {closed : Follower} {c d : Course} (ran : Ran (Apart closed) c d)
    (none : c.follower.Linkless) : d.follower.Linkless := by
  induction ran with
  | start => exact none
  | move before made may ih => exact linkless_move made may ih

/-- A start that waits while nobody has a backend gives the wallet one exactly if it attaches. -/
theorem Sound.resume_returns {c : Course} (sound : c.Sound) (linkless : c.follower.Linkless)
    {start : PendingStart} {reply : Reply ConnectError} {g : Follower}
    (waits : start ∈ c.follower.starts)
    (made : c.follower.move? (.connection start.attempt reply) = some g) :
    g.wallet.link ≠ none ↔ c.follower.WouldAttach reply := by
  -- No other start waits beside it.
  obtain ⟨move, alone⟩ := sound.resume_move waits reply
  have same : g = c.follower.finishStart start reply := Option.some.inj (made.symm.trans move)
  rw [finishStart_eq, alone] at same
  rw [same]
  constructor
  · intro given
    apply Classical.byContradiction
    intro refused
    have stays : ¬ Follower.WouldAttach { c.follower with starts := [] } reply :=
      fun attaches => refused (attaches.of_faults rfl)
    exact given (resume_linkless stays linkless).1
  · intro attaches
    exact resume_attaches (attaches.of_faults rfl)

/-- Whatever went on before, closing takes all backends away but for a start that waits. -/
theorem closed_wallet_backend {c : Course} (reached : c.Reached) {g : Follower}
    (closed : Scenario.Step.closeWallet.perform c.follower = (.done (.ok ()), g)) :
    Closing c g := by
  have cancelled : SameSync c.follower c.follower.cancelQuietly.cancelRescan :=
    (SameSync.cancelQuietly _).trans (SameSync.cancelRescan _)
  have loaded : c.follower.cancelQuietly.cancelRescan.loader = c.follower.loader := by
    unfold cancelRescan cancelQuietly
    split <;> split <;> rfl
  have done : close.run c.follower.cancelQuietly.cancelRescan = (.ok (), g) := by
    obtain ⟨result, same⟩ := Prod.mk.inj closed
    exact Prod.ext (Scenario.Result.done.inj result) same
  obtain ⟨loader, wallet⟩ := close_links done
  rw [loaded, cancelled.walletLink] at wallet
  have stays := SameSessions.close c.follower.cancelQuietly.cancelRescan
  rw [done] at stays
  have sound : (c.next (.step .closeWallet) g).Sound :=
    reached.sound.moved (congrArg some (congrArg Prod.snd closed))
  exact {
    starts := stays.starts.trans cancelled.starts
    loader := loader
    wallet := by
      rw [wallet]
      split
      · rename_i open'
        simp [open']
      · rename_i unloaded
        simp [unloaded]
    stays := fun none d ran => ran.linkless ⟨none, loader⟩
    returns := fun d ran linkless start _ waits reply h made =>
      (ran.sound sound).resume_returns linkless waits made }

/-- The standard follower, closed while its run goes on. -/
theorem closed_wallet_backend_running :
    ∃ (c : Course) (g : Follower), c.Reached ∧ c.follower.wallet.link = some (.syncer ⟨.spv, 1⟩) ∧
      Closing c g ∧ g.wallet.link = none := by
  have started : Ran (fun _ _ _ => True) standard _ :=
    .move .start (rfl : standard.follower.move? (.step (.start (.spv []))) = some _) trivial
  have reached : Reached _ := ⟨standard, standard_initial, started⟩
  have closing := closed_wallet_backend reached rfl
  exact ⟨_, _, reached, rfl, closing, closing.wallet.mpr (Or.inl rfl)⟩

/-- Closed while a start waits for its connection, the standard follower's wallet gets a backend
when the connection comes about, though it is not loaded. -/
theorem closed_wallet_regains_backend :
    ∃ (c : Course) (g : Follower), c.Reached ∧
      Scenario.Step.closeWallet.perform c.follower = (.done (.ok ()), g) ∧ g.Linkless ∧
      (g.move? (.connection 1 .ok)).map
        (fun h => (h.wallet.link, h.loader.link, h.loader.loaded)) =
          some (some (.client ⟨1⟩), some (.client ⟨1⟩), false) := by
  let server : BackendConfig := .rpc "10.0.0.1:19109" "user" "password" none
  have gated : Ran (fun _ _ _ => True) standard _ :=
    .move .start
      (rfl : standard.follower.move? (.step (.connectScript ⟨none, none, none⟩)) = some _) trivial
  have started : Ran (fun _ _ _ => True) standard _ :=
    .move gated (rfl : Follower.move? _ (.step (.start server)) = some _) trivial
  exact ⟨_, _, ⟨standard, standard_initial, started⟩, rfl, ⟨rfl, rfl⟩, by decide +kernel⟩

end Course

end ChainFollower

import ChainFollower.Proofs.Launching

/-! How a run ends: the backend is taken away before anybody is told. -/
namespace ChainFollower

def RunError.code : RunError → ErrorCode
  | canceled => .canceled
  | deadlineExceeded => .deadlineExceeded
  | other _ => .unclassified

def RunError.told : Option RunError → List Event
  | none => []
  | some e => [.syncError e.code (.run e)]

def Event.isError : Event → Bool
  | syncError _ _ => true
  | _ => false

def RunError.reply : Option RunError → Reply RunError
  | none => .ok
  | some e => .error e

theorem SyncOutcome.ofRun_inactive (result : Option RunError) :
    (ofRun result).state.isActive = false := by
  rcases result with _ | _ | _ | text <;> rfl

namespace Follower

open Act

def emptied (f : Follower) : Follower :=
  { f with session := { f.session with backend := none, token := none } }

def detached (f : Follower) : Follower :=
  ((f.emptied.walletLinked none).loaderLinked none).setState .idle

theorem detached_session (f : Follower) : f.detached.session = ⟨.idle, none, none⟩ := rfl

theorem detached_wallet (f : Follower) : f.detached.wallet.link = none := rfl

theorem detached_loader (f : Follower) : f.detached.loader.link = none := rfl

theorem detached_listeners (f : Follower) : f.detached.listeners = f.listeners := rfl

theorem detached_cache (f : Follower) : f.detached.cache = f.cache := rfl

theorem detached_history (f : Follower) :
    f.detached.history =
      .stateSet .idle ::
      .saw (.loaderBackend none f.session.state) ::
      .saw (.walletBackend none f.session.state) :: f.history := rfl

theorem detach_cases (f : Follower) :
    detach.run f = (.ok (), f.detached) ∨
      ∃ text g, detach.run f = (.error (.panicked text), g) ∧ ¬ f.LinksHold ∧
        SameSessions f.emptied g ∧ Unlinks f.emptied g := by
  have sections : detach = (do
      Act.update emptied
      setWalletLink none
      setLoaderLink none
      Act.update (fun f => f.setState .idle)) := rfl
  rw [sections, run_bind, run_update]
  dsimp only
  rw [run_bind]
  have wallet := SameSessions.setWalletLink none f.emptied
  have walletLess := Unlinks.setWalletLink f.emptied
  rcases setWalletLink_cases none f.emptied with ⟨_, came⟩ | ⟨breaks, text, came⟩
  · rw [came] at wallet walletLess ⊢
    dsimp only
    rw [run_bind]
    have loader := SameSessions.setLoaderLink none (f.emptied.walletLinked none)
    have loaderLess := Unlinks.setLoaderLink (f.emptied.walletLinked none)
    rcases setLoaderLink_cases none (f.emptied.walletLinked none)
      with ⟨_, came⟩ | ⟨breaks, text, came⟩
    · rw [came]
      exact Or.inl rfl
    · rw [came] at loader loaderLess ⊢
      refine Or.inr ⟨text, _, rfl, fun hold => ?_, wallet.trans loader, walletLess.trans loaderLess⟩
      exact breaks hold.loader
  · rw [came] at wallet walletLess ⊢
    refine Or.inr ⟨text, _, rfl, fun hold => ?_, wallet, walletLess⟩
    exact breaks hold.wallet

theorem detach_of_linksHold {f : Follower} (hold : f.LinksHold) :
    detach.run f = (.ok (), f.detached) := by
  rcases detach_cases f with came | ⟨_, _, _, breaks, _, _⟩
  · exact came
  · exact absurd hold breaks

/-- The follower in which the backend of a run that returned begins to be taken away: an RPC client
whose run failed is not kept. -/
def ending (f : Follower) (backend : Backend) (result : Option RunError) : Follower :=
  let outcome := SyncOutcome.ofRun result
  let f := f.setState outcome.state
  if outcome.state = .errored ∧ backend.kind = .rpc then f.invalidateCache else f

theorem run_concludeRun (backend : Backend) (result : Option RunError) (f : Follower) :
    (concludeRun backend result).run f =
      match detach.run (f.ending backend result) with
      | (.ok _, g) => (.ok (SyncOutcome.ofRun result), g.reportEnd backend.kind result)
      | (.error stop, g) => (.error stop, g) := by
  unfold concludeRun ending
  dsimp only
  rw [run_bind, run_update]
  dsimp only
  split
  · rw [run_bind, run_update]
    dsimp only
    rw [run_bind]
    rcases detach.run (f.setState (SyncOutcome.ofRun result).state).invalidateCache
      with ⟨stop | value, g⟩ <;> rfl
  · change (detach >>= _).run _ = _
    rw [run_bind]
    rcases detach.run (f.setState (SyncOutcome.ofRun result).state)
      with ⟨stop | value, g⟩ <;> rfl

theorem Dialled.invalidateCache (f : Follower) : Dialled f f.invalidateCache := by
  have dropped := cached f (ClientCache.invalidate f.cache).1
  unfold Follower.invalidateCache
  dsimp only
  split
  · exact dropped.trans (log _ .cacheInvalidated)
  · exact dropped

theorem Dialled.ending (f : Follower) (backend : Backend) (result : Option RunError) :
    Dialled (f.setState (SyncOutcome.ofRun result).state) (f.ending backend result) := by
  unfold Follower.ending
  dsimp only
  split
  · exact invalidateCache _
  · exact refl _

theorem told_reportEnd (f : Follower) (kind : BackendKind) (result : Option RunError) :
    Told (fun _ => True) f (f.reportEnd kind result) := by
  have logged (record : LogRecord) (event : Event) :
      Told (fun _ => True) f ((f.log record).broadcast event) :=
    (Told.log f record).trans ((Told.broadcast event _).mono fun _ _ => trivial)
  rcases result with _ | _ | _ | text
  · exact Told.log f _
  · exact logged _ _
  · exact logged _ _
  · exact logged _ _

theorem Told.standing {sent : Event → Prop} {f g : Follower} (told : Told sent f g) :
    g.standing = f.standing := by
  obtain ⟨ls, ts, hs, rfl, _⟩ := told
  rfl

theorem Told.gives_nothing {sent : Event → Prop} {f g : Follower} (told : Told sent f g) :
    Without Happening.Gives f g := by
  obtain ⟨ls, ts, hs, rfl, _, _, telling⟩ := told
  refine ⟨hs, rfl, fun happening member => ?_⟩
  have kind := telling happening member
  cases happening with
  | heard position event => exact id
  | logged record => exact id
  | _ => exact kind.elim

theorem Unlinks.of_told {sent : Event → Prop} {f g : Follower} (told : Told sent f g) :
    Unlinks f g :=
  ⟨Or.inl (congrArg Standing.walletLink told.standing),
    Or.inl (congrArg Standing.loaderLink told.standing), told.gives_nothing⟩

/-- Every listener that is registered hears of an error once, and nobody of anything else. -/
theorem heardBy_reportEnd (f : Follower) (kind : BackendKind) (result : Option RunError)
    (position : Nat) :
    (heardBy position (f.reportEnd kind result).history).filter Event.isError =
      (if f.hears position then RunError.told result else []) ++
        (heardBy position f.history).filter Event.isError := by
  have sent (record : LogRecord) (event : Event) :=
    @heardBy_broadcast Event.isError rfl event (f.log record) position
  rcases result with _ | _ | _ | text
  · simp [reportEnd, RunError.told, Follower.log, note, heardBy]
  · exact sent _ _
  · exact sent _ _
  · exact sent _ _

def withoutRun (f : Follower) (run : RunLoop) : Follower :=
  { f with runs := f.runs.filter (fun other => other.number != run.number) }

theorem endRun_reply (run : RunLoop) (result : Option RunError) :
    endRun run (RunError.reply result) = concludeRun run.backend result := by
  cases result <;> rfl

/-- The follower in which a run that returned is no longer attached, and nobody knows yet. -/
def runDetached (f : Follower) (run : RunLoop) (result : Option RunError) : Follower :=
  ((f.withoutRun run).ending run.backend result).detached

theorem finishRun_eq (f : Follower) (run : RunLoop) (result : Option RunError) :
    f.finishRun run (RunError.reply result) =
      match detach.run ((f.withoutRun run).ending run.backend result) with
      | (.ok _, g) =>
        (g.reportEnd run.backend.kind result).note
          (.syncEnded run.number (SyncOutcome.ofRun result))
      | (.error (.panicked text), g) => g.note (.syncEnded run.number (SyncOutcome.ofPanic text))
      | (.error (.failed e), g) =>
        g.note (.syncEnded run.number (.errored .unclassified e.message)) := by
  unfold finishRun withoutRun
  dsimp only
  rw [endRun_reply, run_concludeRun]
  generalize detach.run _ = came
  rcases came with ⟨(e | text) | value, g⟩ <;> rfl

theorem detach_ending (f : Follower) (run : RunLoop) (result : Option RunError)
    (hold : f.LinksHold) :
    detach.run ((f.withoutRun run).ending run.backend result) =
      (.ok (), f.runDetached run result) := by
  have faults := (Dialled.ending (f.withoutRun run) run.backend result).sameTasks.faults
  exact detach_of_linksHold (hold.of_faults faults)

theorem finishRun_returned (f : Follower) (run : RunLoop) (result : Option RunError)
    (hold : f.LinksHold) :
    f.finishRun run (RunError.reply result) =
      ((f.runDetached run result).reportEnd run.backend.kind result).note
        (.syncEnded run.number (SyncOutcome.ofRun result)) := by
  rw [finishRun_eq, detach_ending f run result hold]

/-- `g` is `f` after the run returned, with or without a panic while its backend was taken away. -/
structure RunReturned (run : RunLoop) (f g : Follower) : Prop where
  backend : g.session.backend = none
  token : g.session.token = none
  inactive : g.session.state.isActive = false
  idle : f.LinksHold → g.session.state = .idle
  starts : g.starts = f.starts
  runs : g.runs.map RunLoop.launched = (f.withoutRun run).runs.map RunLoop.launched
  attempts : g.counts.startAttempts = f.counts.startAttempts
  syncs : g.counts.syncs = f.counts.syncs
  unlinks : Unlinks f g

theorem Unlinks.detached (f : Follower) : Unlinks f f.detached :=
  ⟨Or.inr rfl, Or.inr rfl, [_, _, _], rfl, by simp [Happening.Gives]⟩

section
variable {run : RunLoop} {f e g : Follower} {state : SyncState}

/-- The backend was taken away from `e`, and the end was told. -/
theorem runReturned_told (sync : SameSync ((f.withoutRun run).setState state) e)
    (unlinks : Unlinks f e) (kind : BackendKind) (result : Option RunError) (number : Nat)
    (outcome : SyncOutcome) :
    RunReturned run f ((e.detached.reportEnd kind result).note (.syncEnded number outcome)) := by
  have told := told_reportEnd e.detached kind result
  have same : (e.detached.reportEnd kind result).standing = e.detached.standing := told.standing
  have session := congrArg Standing.session same
  exact {
    backend := congrArg Session.backend session
    token := congrArg Session.token session
    inactive := congrArg (fun s => s.state.isActive) session
    idle := fun _ => congrArg Session.state session
    starts := (congrArg Standing.starts same).trans sync.starts
    runs := congrArg (List.map RunLoop.launched) ((congrArg Standing.runs same).trans sync.runs)
    attempts := (congrArg Standing.attempts same).trans sync.attempts
    syncs := (congrArg Standing.syncs same).trans sync.syncs
    unlinks := ((unlinks.trans (Unlinks.detached e)).trans (Unlinks.of_told told)).trans
      (Unlinks.note _ id) }

/-- Taking the backend away from `e` panicked: the slot is empty by then, but the state is still the
one in which the run ended. -/
theorem runReturned_broken (sync : SameSync ((f.withoutRun run).setState state) e)
    (unlinks : Unlinks f e) (inactive : state.isActive = false) (breaks : ¬ e.LinksHold)
    (stays : SameSessions e.emptied g) (less : Unlinks e.emptied g) (number : Nat)
    (outcome : SyncOutcome) : RunReturned run f (g.note (.syncEnded number outcome)) := by
  have emptied : Unlinks e e.emptied := ⟨Or.inl rfl, Or.inl rfl, Without.of_same rfl⟩
  have before : e.session.state = state := by rw [sync.session]; rfl
  have after : g.session.state = state := by
    rcases stays.state with same | ⟨attached, _⟩
    · exact same.trans before
    · have active : e.session.state.isActive = true := SyncState.Attached.active attached
      rw [before, inactive] at active
      contradiction
  exact {
    backend := stays.backend
    token := stays.token
    inactive := (congrArg SyncState.isActive after).trans inactive
    idle := fun hold => absurd (hold.of_faults sync.faults) breaks
    starts := stays.starts.trans sync.starts
    runs := stays.runs.trans (congrArg (List.map RunLoop.launched) sync.runs)
    attempts := stays.attempts.trans sync.attempts
    syncs := stays.syncs.trans sync.syncs
    unlinks := ((unlinks.trans emptied).trans less).trans (Unlinks.note _ id) }

end

theorem runReturned_finishRun (f : Follower) (run : RunLoop) (result : Option RunError) :
    RunReturned run f (f.finishRun run (RunError.reply result)) := by
  have sync := (Dialled.ending (f.withoutRun run) run.backend result).sameTasks.toSameSync
  have begun : Unlinks f ((f.withoutRun run).setState (SyncOutcome.ofRun result).state) :=
    ⟨Or.inl rfl, Or.inl rfl, [_], rfl, by simp [Happening.Gives]⟩
  have unlinks := begun.trans (Unlinks.of_sameSync sync)
  rw [finishRun_eq]
  generalize (f.withoutRun run).ending run.backend result = e at sync unlinks
  rcases detach_cases e with came | ⟨text, g, came, breaks, stays, less⟩
  · rw [came]
    exact runReturned_told sync unlinks _ _ _ _
  · rw [came]
    have inactive := SyncOutcome.ofRun_inactive result
    exact runReturned_broken sync unlinks inactive breaks stays less _ _

end Follower

end ChainFollower

import ChainFollower.Follower.Session

/-!
The task that drives an attached backend, and what a backend tells while it runs.
-/

namespace ChainFollower.Follower

/-- The state after a backend says whether the wallet has caught up; nothing if that changes
nothing. -/
def syncedState? : SyncState → Bool → Option SyncState
  | .running, true => some .synced
  | .synced, false => some .running
  | _, _ => none

def notify (kind : BackendKind) (f : Follower) : Notification → Follower
  | .peerConnected count =>
    if kind.reportsPeers then (f.log (.peerConnected count)).broadcast (.peerConnected count) else f
  | .peerDisconnected count =>
    if kind.reportsPeers then (f.log (.peerDisconnected count)).broadcast (.peerDisconnected count)
    else f
  | .synced caughtUp =>
    match syncedState? f.session.state caughtUp with
    | some state => ((f.setState state).log (.walletSynced caughtUp)).broadcast (.synced caughtUp)
    | none => f.broadcast (.synced caughtUp)
  | .rescanProgress height => f.broadcast (.rescan height .progress)
  | .rescanFinished height => f.broadcast (.rescan height .finish)

def invalidateCache (f : Follower) : Follower :=
  let result := ClientCache.invalidate f.cache
  let f := { f with cache := result.1 }
  if result.2 then f.log .cacheInvalidated else f

/-- The section that takes the backend away from session, wallet and loader. -/
def detach : Act Unit := do
  Act.update (fun f => { f with session := { f.session with backend := none, token := none } })
  setWalletLink none
  setLoaderLink none
  Act.update (fun f => f.setState .idle)

def reportEnd (f : Follower) (kind : BackendKind) : Option RunError → Follower
  | none => f.log (.syncStopped kind)
  | some .canceled =>
    (f.log (.syncCanceled kind .canceled)).broadcast (.syncError .canceled (.run .canceled))
  | some .deadlineExceeded =>
    (f.log (.syncFailed kind .deadlineExceeded)).broadcast
      (.syncError .deadlineExceeded (.run .deadlineExceeded))
  | some (.other text) =>
    (f.log (.syncFailed kind (.other text))).broadcast
      (.syncError .unclassified (.run (.other text)))

/-- Ends a run that returned. An RPC client whose run failed is not used again. -/
def concludeRun (backend : Backend) (result : Option RunError) : Act SyncOutcome := do
  let outcome := SyncOutcome.ofRun result
  Act.update (fun f => f.setState outcome.state)
  if outcome.state = .errored ∧ backend.kind = .rpc then
    Act.update invalidateCache
  detach
  Act.update (fun f => f.reportEnd backend.kind result)
  pure outcome

def endRun (run : RunLoop) : Reply RunError → Act SyncOutcome
  | .ok => concludeRun run.backend none
  | .error e => concludeRun run.backend (some e)
  | .panic text => throw (.panicked text)

/-- Calls the backend's run, which begins by telling what its script says. -/
def beginRun (f : Follower) (backend : Backend) : Follower :=
  let notices := ((f.syncers.lookup backend.syncer).map RunScript.notices).getD []
  notices.foldl (notify backend.kind) (f.saw (.run backend.syncer f.session.state))

end ChainFollower.Follower

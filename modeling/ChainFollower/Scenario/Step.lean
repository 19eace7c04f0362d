import ChainFollower.Scenario.Setup

/-!
The steps of a scenario: calls of the follower, and what its surroundings do.
-/

namespace ChainFollower.Scenario

inductive Step where
  | exists?
  | create (passphrase seed : String)
  | openWallet (publicPass : Bytes)
  | unlock (passphrase : Bytes)
  | changePrivate (old new : Bytes)
  | changePublic (old new : Bytes)
  | lock
  | close
  /-- Cancels the sync and the rescan, and closes. -/
  | closeWallet
  | config
  | indexPath
  | indexAddress
  | indexOwns (address : String)
  | start (config : BackendConfig)
  | abandonStart
  | cancelSync
  | cancelRescan
  | bestHeight
  | bestTimestamp
  | cacheStore
  | cacheInvalidate
  | startRescan
  | shutdown
  | shutdownRequested
  | addListener (listener : Listener)
  | notify (notification : Notification)
  | endRun (reply : Reply RunError)
  | releaseConnect (reply : Reply ConnectError)
  | rescanFeed (items : List RescanItem) (ending : RescanEnd)
  | fail (place : Place) (fault : Option Fault)
  | spvScript (script : RunScript)
  | rpcScript (script : RunScript)
  | connectScript (gate : Gate ConnectError)
  | rescanScript (script : RescanScript)
  | setTip (height : Height) (time : Option Int64)
  | attach (link : Option Link)
  | setLoaded (loaded : Bool)
  | setExists (walletExists : Bool)

inductive Result where
  | nothing
  | done (call : Except Stop Unit)
  | flag (call : Except Stop Bool)
  | number (call : Except Stop Int)
  | text (value : String)
  | wiped (value : Follower.Wiped)
  | config (config : Config) (loaded : Bool)
  | address (call : Except Stop (Except WalletError String))
  | start (call : Except Stop Started) (state : SyncState)
  | rescan (call : Follower.RescanStart) (running : Bool)

namespace Step

def releaseRun (f : Follower) (reply : Reply RunError) : Follower × Bool :=
  match f.syncers with
  | [] => (f, false)
  | (syncer, script) :: rest =>
    let script := { script with gate := script.gate.release reply }
    ({ f with syncers := (syncer, script) :: rest }, true)

def releaseClient (f : Follower) (reply : Reply ConnectError) : Follower × Bool :=
  match f.clients with
  | [] => (f, false)
  | (client, gate) :: rest => ({ f with clients := (client, gate.release reply) :: rest }, true)

/-- Gives a rescan more items behind those that it has. -/
def feedJob (items : List RescanItem) (ending : RescanEnd) (job : RescanJob) : RescanJob :=
  match job.producer with
  | .scanning script waiting =>
    let script := { script with
      items := script.items ++ items
      ending := if ending = .wait then script.ending else ending }
    { job with producer := .scanning script waiting }
  | _ => job

def feed (f : Follower) (items : List RescanItem) (ending : RescanEnd) : Follower × Bool :=
  match f.lastRescan with
  | none => (f, false)
  | some number =>
    ({ f with rescans := f.rescans.map (fun job =>
      if job.number = number then feedJob items ending job else job) }, true)

def storeClient (f : Follower) : Follower × Client :=
  let client : Client := ⟨f.counts.clients + 1⟩
  { f with counts := { f.counts with clients := client.number } }.keepClient client

def setFault (f : Follower) (place : Place) (fault : Option Fault) : Follower :=
  let others := f.faults.filter (fun entry => entry.1 ≠ place)
  match fault with
  | some fault => { f with faults := (place, fault) :: others }
  | none => { f with faults := others }

def call {α : Type} (form : Except Stop α → Result) (work : Act α) (f : Follower) :
    Result × Follower :=
  let result := work.run f
  (form result.1, result.2)

def flagOf (pair : Follower × Bool) : Result × Follower :=
  (.flag (.ok pair.2), pair.1)

/-- Takes a step, without the tasks that go on behind it. -/
def perform (f : Follower) : Step → Result × Follower
  | .exists? => call .flag Follower.exists? f
  | .create passphrase seed => call .done (Follower.create passphrase seed) f
  | .openWallet publicPass => call .done (Follower.openAll publicPass) f
  | .unlock passphrase =>
    let result := f.unlock passphrase
    (.wiped result.1, result.2)
  | .changePrivate old new =>
    let result := f.changePrivatePass old new
    (.wiped result.1, result.2)
  | .changePublic old new =>
    let result := f.changePublicPass old new
    (.wiped result.1, result.2)
  | .lock => (.nothing, f.lock)
  | .close => call .done Follower.close f
  | .closeWallet => call .done Follower.close f.cancelQuietly.cancelRescan
  | .config => (.config f.config f.loader.loaded, f)
  | .indexPath => (.text f.config.indexPath, f)
  | .indexAddress => if f.indexBound then call .address Follower.nextAddress f else (.nothing, f)
  | .indexOwns address =>
    (if f.indexBound then .flag (.ok (Follower.ownsAddress address)) else .nothing, f)
  | .start backend =>
    let result := (Follower.startSync backend).run f
    (.start result.1 result.2.session.state, result.2)
  | .abandonStart => flagOf f.abandonStart
  | .cancelSync => (.nothing, f.cancelSync)
  | .cancelRescan => (.nothing, f.cancelRescan)
  | .bestHeight => (.number (.ok f.bestHeight.toInt), f)
  | .bestTimestamp => call .number (Int64.toInt <$> Follower.bestTimestamp) f
  | .cacheStore =>
    let result := storeClient f
    (.text result.2.name, result.1)
  | .cacheInvalidate => (.nothing, f.invalidateCache)
  | .startRescan =>
    let result := f.startRescan
    (.rescan result.2 result.1.rescanSlot.running, result.1)
  | .shutdown => (.flag (.ok true), f.requestShutdown)
  | .shutdownRequested => (.flag (.ok f.shutdown), f)
  | .addListener listener => (.nothing, f.addListener listener)
  | .notify notification =>
    match f.syncers with
    | [] => (.flag (.ok false), f)
    | (syncer, _) :: _ => (.flag (.ok true), f.notify syncer.kind notification)
  | .endRun reply => flagOf (releaseRun f reply)
  | .releaseConnect reply => flagOf (releaseClient f reply)
  | .rescanFeed items ending => flagOf (feed f items ending)
  | .fail place fault => (.nothing, setFault f place fault)
  | .spvScript script => (.nothing, { f with scripts := { f.scripts with spvRun := script } })
  | .rpcScript script => (.nothing, { f with scripts := { f.scripts with rpcRun := script } })
  | .connectScript gate => (.nothing, { f with scripts := { f.scripts with rpcConnect := gate } })
  | .rescanScript script => (.nothing, { f with wallet := { f.wallet with rescan := script } })
  | .setTip height time =>
    (.nothing, { f with wallet := { f.wallet with
      tip := { f.wallet.tip with height := height }, blockTime := time } })
  | .attach link => (.nothing, f.setLink link)
  | .setLoaded loaded => (.nothing, { f with loader := { f.loader with loaded := loaded } })
  | .setExists walletExists =>
    (.nothing, { f with loader := { f.loader with walletExists := walletExists } })

/-- Whether the sync and the rescan end independently of each other in this step. -/
def endsBoth : Step → Bool
  | closeWallet => true
  | shutdown => true
  | _ => false

end Step

end ChainFollower.Scenario

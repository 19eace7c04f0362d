import ChainFollower.Follower.Calls
import ChainFollower.Follower.Fanout

/-!
Starting a sync. A start passes its guard, stores its token, builds a backend, which for a server
means to connect first, and attaches it; a start that stops before the backend is attached leaves
the session idle. The sections that exclude one another are functions of their own.
-/

namespace ChainFollower

inductive Started where
  | launched (number : Nat)
  | pending
  deriving DecidableEq, Repr

namespace Follower

def startBarrier? (f : Follower) : Option SyncError :=
  if !f.loader.loaded then some .walletNotLoaded
  else if f.session.state.isActive || f.wallet.link.isSome then some .syncAlreadyInProgress
  else none

/-- The section that a start begins with: either it is barred and nothing changes, or the session is
starting. -/
def beginStart (f : Follower) : Except SyncError Follower :=
  match f.startBarrier? with
  | some e => .error e
  | none => .ok (f.setState .starting)

def storeToken (f : Follower) (token : Token) : Follower :=
  { f with session := { f.session with token := some token } }

/-- The section that ends a start without a backend. -/
def abortStart (f : Follower) : Follower :=
  let cleared := { f.session with token := none, backend := none }
  { f.cancelQuietly with session := cleared }.setState .idle

def attach (backend : Backend) : Act Unit := do
  setWalletLink (some backend.link)
  setLoaderLink (some backend.link)
  Act.update (fun f => { f with session := { f.session with backend := some backend } })
  Act.update (fun f => f.setState .running)

def orAbort {α : Type} (work : Act α) : Act α :=
  tryCatch work (fun stop => do
    Act.update abortStart
    throw stop)

def warned {α : Type} (work : Act α) : Act α :=
  tryCatch work (fun stop => do
    match stop with
    | .failed e => Act.update (fun f => f.log (.startFailed e))
    | .panicked _ => pure ()
    throw stop)

/-- The valid ones of the addresses of peers, with ports. Invalid ones are logged and reported. -/
def normalizeEach (port : UInt16) : List String → Follower → List String × Follower
  | [], f => ([], f)
  | peer :: rest, f =>
    match Endpoint.ofAddress port peer with
    | .ok endpoint =>
      let more := normalizeEach port rest f
      (endpoint.render :: more.1, more.2)
    | .error e =>
      normalizeEach port rest
        ((f.log (.peerInvalid e)).broadcast (.syncError .invalidPeerAddress (.address e)))

/-- Peers with ports; fails if there were any and none is valid. -/
def normalizePeers (peers : List String) : Act (List String) := do
  if peers.isEmpty then pure []
  else
    let f ← get
    let result := normalizeEach f.config.network.peerPort peers f
    set result.2
    if result.1.isEmpty then Act.fail .invalidPeers else pure result.1

def setNotifications (syncer : Syncer) : Act Unit := do
  Act.update (fun f => f.saw (.notifications syncer))
  Act.panicAt .notifications

def restrictPeers (syncer : Syncer) (addresses : List String) : Act Unit := do
  if !addresses.isEmpty then
    Act.update (fun f => f.log (.peersRestricted addresses.length))
    Act.update (fun f => f.saw (.peers syncer addresses))
    Act.panicAt .peers

def buildSpv (peers : List String) : Act Backend := do
  let addresses ← normalizePeers peers
  let number ← makeSpvSyncer
  setNotifications ⟨.spv, number⟩
  restrictPeers ⟨.spv, number⟩ addresses
  pure (.spv number)

def buildRpc (client : Client) : Act Backend := do
  let number ← makeRpcSyncer client
  setNotifications ⟨.rpc, number⟩
  pure (.rpc number client)

/-- Keeps a connected client, unless another one is kept already; that one is used then. -/
def keepClient (f : Follower) (client : Client) : Follower × Client :=
  let result := ClientCache.store f.cache client
  let f := { f with cache := result.1 }
  (if result.2.2 then f.log .clientDiscarded else f, result.2.1)

/-- What callers see of a failed connection. After a cancellation any failure counts as that. -/
def connectFailure (cancelled : Bool) : ConnectError → SyncError
  | .invalidAuth => .invalidAuth
  | .canceled => .contextCanceled
  | .other text => if cancelled then .contextCanceled else .unavailable text

def connected (attempt : Nat) (client : Client) (address : String) (reply : Reply ConnectError) :
    Act Backend := do
  match reply with
  | .panic text => throw (.panicked text)
  | .error e =>
    Act.update (fun f => f.log (.connectFailed address e))
    Act.fail (connectFailure ((← get).isCancelled (.start attempt)) e)
  | .ok =>
    Act.update (fun f => f.log (.connected address))
    let kept := (← get).keepClient client
    set kept.1
    buildRpc kept.2

/-- Begins to connect to a server, and to build a backend on it if there is a reply at once. -/
def connect (attempt : Nat) (address username password : String) (certificate : Bytes) :
    Act (Option Backend) := do
  let network := (← get).config.network
  match Endpoint.ofAddress network.rpcPort address with
  | .error e => Act.fail (.invalidAddress e.message)
  | .ok endpoint =>
    let server := endpoint.render
    Act.update (fun f => f.log (.connecting server))
    match ← makeClient ⟨network, server, username, password, certificate, certificate.isEmpty⟩ with
    | .error e => Act.fail (.ofWallet e)
    | .ok client =>
      Act.update (fun f => f.saw (.connect client f.session.state))
      match (← get).connectReply? client attempt with
      | some reply => some <$> connected attempt client server reply
      | none =>
        Act.update (fun f => { f with starts := f.starts ++ [⟨attempt, client, server⟩] })
        pure none

/-- Builds the backend of a start; nothing yet if its connection has to be waited for. -/
def build (attempt : Nat) : BackendConfig → Act (Option Backend)
  | .spv peers => some <$> buildSpv peers
  | .rpc address username password certificate => do
    match (← get).cache with
    | some client =>
      Act.update (fun f => f.log .clientReused)
      some <$> buildRpc client
    | none => connect attempt address username password (certificate.getD [])

/-- Attaches a backend and starts the task that drives it; the number of the sync comes back. -/
def launch (attempt : Nat) (backend : Backend) : Act Nat := do
  Act.panicAt .backendLink
  attach backend
  if !backend.kind.reportsPeers then
    Act.update (fun f => f.broadcast (.peerDisconnected (-1)))
  let number := (← get).counts.syncs + 1
  Act.update (fun f => { f with
    counts := { f.counts with syncs := number }
    runs := f.runs ++ [⟨number, attempt, backend, false⟩] })
  pure number

def startSync (config : BackendConfig) : Act Started := do
  match (← get).beginStart with
  | .error e => Act.fail e
  | .ok f =>
    let attempt := f.counts.startAttempts + 1
    set { f with counts := { f.counts with startAttempts := attempt } }
    Act.update (fun f => f.log (.starting config))
    Act.update (fun f => f.storeToken (.start attempt))
    match ← orAbort (warned (build attempt config)) with
    | some backend => .launched <$> launch attempt backend
    | none => pure .pending

def resumeStart (start : PendingStart) (reply : Reply ConnectError) : Act Nat := do
  let backend ← orAbort (warned (connected start.attempt start.client start.address reply))
  launch start.attempt backend

def abandonStart (f : Follower) : Follower × Bool :=
  match f.starts with
  | [] => (f, false)
  | _ :: rest => ({ f with starts := rest }.abortStart.note (.startEnded .abandoned), true)

end Follower

end ChainFollower

import ChainFollower.Backend.ClientCache
import ChainFollower.Log.Record

/-!
What can happen around a follower, so that a run is a list of happenings.
-/

namespace ChainFollower

inductive SyncState where
  | idle
  /-- A start is under way and its backend is being built. -/
  | starting
  | running
  /-- The backend says that the wallet has caught up with the chain. -/
  | synced
  /-- The run ended with an error; the backend is about to be detached. -/
  | errored
  /-- The run was cancelled; the backend is about to be detached. -/
  | canceled
  deriving DecidableEq, Repr

namespace SyncState

def name : SyncState → String
  | idle => "Idle"
  | starting => "Starting"
  | running => "Running"
  | synced => "Synced"
  | errored => "Errored"
  | canceled => "Canceled"

/-- Whether a backend is attached or about to be. -/
def isActive : SyncState → Bool
  | starting => true
  | running => true
  | synced => true
  | _ => false

end SyncState

structure Syncer where
  kind : BackendKind
  number : Nat
  deriving DecidableEq, Repr

def Syncer.name (syncer : Syncer) : String :=
  match syncer.kind with
  | .spv => "spv" ++ toString syncer.number
  | .rpc => "rpc" ++ toString syncer.number

/-- Access to the chain, as wallet and loader hold it. -/
inductive Link where
  | syncer (syncer : Syncer)
  | client (client : Client)
  | foreign (name : String)
  deriving DecidableEq, Repr

namespace Link

def name : Link → String
  | syncer s => s.name
  | client c => c.name
  | foreign name => name

def nameOf : Option Link → String
  | some link => link.name
  | none => "null"

end Link

/-- A backend that is ready to be attached. -/
inductive Backend where
  | spv (number : Nat)
  | rpc (number : Nat) (client : Client)
  deriving DecidableEq, Repr

namespace Backend

def kind : Backend → BackendKind
  | spv _ => .spv
  | rpc _ _ => .rpc

def syncer : Backend → Syncer
  | spv number => ⟨.spv, number⟩
  | rpc number _ => ⟨.rpc, number⟩

/-- The link that the backend gives: a syncer of peers is its own, an RPC syncer uses that of its
client. -/
def link : Backend → Link
  | spv number => .syncer ⟨.spv, number⟩
  | rpc _ client => .client client

end Backend

inductive SyncOutcome where
  | completed
  | canceled
  | errored (code : ErrorCode) (message : String)
  deriving DecidableEq, Repr

namespace SyncOutcome

def ofRun : Option RunError → SyncOutcome
  | none => completed
  | some .canceled => canceled
  | some .deadlineExceeded => errored .deadlineExceeded (RunError.message .deadlineExceeded)
  | some (.other text) => errored .unclassified text

def ofPanic (text : String) : SyncOutcome :=
  errored .unclassified ("sync task failed: task # panicked with message " ++ Text.quote text)

/-- The state in which the backend is detached. -/
def state : SyncOutcome → SyncState
  | completed => .idle
  | canceled => .canceled
  | errored _ _ => .errored

end SyncOutcome

inductive RescanOutcome where
  | finished (scanned : Height)
  | canceled (scanned : Height)
  | failed (scanned : Height) (e : WalletError)
  deriving DecidableEq, Repr

inductive StartOutcome where
  | launched (number : Nat)
  | stopped (stop : Stop)
  | abandoned

inductive Sight where
  | create (publicPass privatePass seed : Bytes)
  | openWallet (publicPass : Bytes)
  | unload
  | loaderBackend (link : Option Link) (state : SyncState)
  | lock
  | unlock (passphrase : Bytes)
  | changePrivate (old new : Bytes)
  | changePublic (old new : Bytes)
  | walletBackend (link : Option Link) (state : SyncState)
  | blockInfo (height : Height)
  | rescan (link : Link)
  | indexInit (path : String)
  | indexAddress (address : String) (owned : Bool)
  | indexClose (number : Nat)
  | spvSyncer (syncer : Syncer) (network : String)
  | rpcClient (params : ServerParams)
  | rpcSyncer (syncer : Syncer) (client : Client)
  | connect (client : Client) (state : SyncState)
  | notifications (syncer : Syncer)
  | peers (syncer : Syncer) (addresses : List String)
  | run (syncer : Syncer) (state : SyncState)
  deriving DecidableEq, Repr

namespace Sight

def describe : Sight → String
  | create publicPass privatePass seed =>
    "loader.create " ++ publicPass.toHex ++ " " ++ privatePass.toHex ++ " " ++ seed.toHex
  | openWallet publicPass => "loader.open " ++ publicPass.toHex
  | unload => "loader.unload"
  | loaderBackend link state =>
    "loader.set_network_backend " ++ Link.nameOf link ++ " [" ++ state.name ++ "]"
  | lock => "wallet.lock"
  | unlock passphrase => "wallet.unlock " ++ passphrase.toHex
  | changePrivate old new => "wallet.change_private " ++ old.toHex ++ " " ++ new.toHex
  | changePublic old new => "wallet.change_public " ++ old.toHex ++ " " ++ new.toHex
  | walletBackend link state =>
    "wallet.set_network_backend " ++ Link.nameOf link ++ " [" ++ state.name ++ "]"
  | blockInfo height => "wallet.block_info Height(" ++ toString height.toInt ++ ")"
  | rescan link => "wallet.rescan from=0 backend=" ++ link.name
  | indexInit path => "index.initialize " ++ path
  | indexAddress address owned => "index.address " ++ address ++ " owned=" ++ toString owned
  | indexClose _ => "index.close"
  | spvSyncer syncer network => "factory.spv_syncer " ++ syncer.name ++ " " ++ network
  | rpcClient params =>
    "factory.rpc_client " ++ params.inspect ++ " password=" ++ params.password ++
      " certificate=" ++ params.certificate.toHex
  | rpcSyncer syncer client => "factory.rpc_syncer " ++ syncer.name ++ " " ++ client.name
  | connect client state => client.name ++ ".start retry=false [" ++ state.name ++ "]"
  | notifications syncer => syncer.name ++ ".set_notifications"
  | peers syncer addresses =>
    syncer.name ++ ".set_persistent_peers " ++ String.intercalate ";" addresses
  | run syncer state =>
    match syncer.kind with
    | .spv => syncer.name ++ ".run [" ++ state.name ++ "]"
    | .rpc => syncer.name ++ ".run discover=true [" ++ state.name ++ "]"

end Sight

inductive Happening where
  | saw (sight : Sight)
  | heard (listener : Nat) (event : Event)
  | logged (record : LogRecord)
  /-- The session's state was assigned, and whoever watches it notified. -/
  | stateSet (state : SyncState)
  | startEnded (outcome : StartOutcome)
  | syncEnded (number : Nat) (outcome : SyncOutcome)
  | rescanEnded (number : Nat) (outcome : RescanOutcome)

end ChainFollower

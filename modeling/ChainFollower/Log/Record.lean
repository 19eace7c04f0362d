import ChainFollower.Backend.Config
import ChainFollower.Progress.Event
import ChainFollower.Progress.Tracker
import ChainFollower.Time

/-!
The log: every record has a level, a part of the library that it comes from, and a text.
-/

namespace ChainFollower

inductive Level where
  | error
  | warn
  | info
  | debug
  | trace
  deriving DecidableEq, Repr

namespace Level

def name : Level → String
  | error => "ERROR"
  | warn => "WARN"
  | info => "INFO"
  | debug => "DEBUG"
  | trace => "TRACE"

def rank : Level → Nat
  | error => 1
  | warn => 2
  | info => 3
  | debug => 4
  | trace => 5

end Level

inductive Area where
  | events
  | notifications
  | session
  | selection
  | rescan
  | progress
  | calls
  | lifecycle
  | clientCache
  | shutdown
  deriving DecidableEq, Repr

def Area.target : Area → String
  | events => "wallet_sync::wallet::sync::events"
  | notifications => "wallet_sync::wallet::sync::notifications"
  | session => "wallet_sync::wallet::sync::session"
  | selection => "wallet_sync::wallet::sync::strategies"
  | rescan => "wallet_sync::wallet::sync::rescan"
  | progress => "wallet_sync::wallet::sync::progress_tracker"
  | calls => "wallet_sync::wallet::sync::orchestrator"
  | lifecycle => "wallet_sync::wallet::lifecycle"
  | clientCache => "wallet_sync::backend::rpc_cache"
  | shutdown => "wallet_sync::shutdown"

inductive LogRecord where
  | listenerPanicked (listener : String)
  | listenerAdded (total : Nat)
  | peerConnected (count : Int32)
  | peerDisconnected (count : Int32)
  | walletSynced (synced : Bool)
  | starting (config : BackendConfig)
  | startFailed (e : SyncError)
  | cancellingSync
  | syncStopped (kind : BackendKind)
  | syncCanceled (kind : BackendKind) (e : RunError)
  | syncFailed (kind : BackendKind) (e : RunError)
  | peerInvalid (e : AddressError)
  | peersRestricted (count : Nat)
  | clientReused
  | connecting (address : String)
  | connected (address : String)
  | connectFailed (address : String) (e : ConnectError)
  | clientDiscarded
  | cacheInvalidated
  | rescanStarting (backend : String)
  | rescanCancelling
  | rescanFailed (e : WalletError)
  | rescanSummary (tracker : Tracker)
  | rescanCanceled (height : Height)
  | rescanProgress (tracker : Tracker)
  | bestBlock (block : BlockInfo)
  | bestBlockFailed (e : WalletError)
  | creating
  | seedRejected (e : SyncError)
  | createFailed (e : WalletError)
  | created
  | openFailed (e : WalletError)
  | indexFailed (e : WalletError)
  | opened (indexPath : String)
  | locked
  | indexCloseFailed (e : WalletError)
  | closed
  | shutdownRequested

namespace LogRecord

def level : LogRecord → Level
  | listenerPanicked _ => .error
  | listenerAdded _ => .debug
  | peerConnected _ => .debug
  | peerDisconnected _ => .debug
  | walletSynced _ => .info
  | starting _ => .info
  | startFailed _ => .warn
  | cancellingSync => .info
  | syncStopped _ => .info
  | syncCanceled _ _ => .info
  | syncFailed _ _ => .error
  | peerInvalid _ => .warn
  | peersRestricted _ => .info
  | clientReused => .debug
  | connecting _ => .info
  | connected _ => .info
  | connectFailed _ _ => .warn
  | clientDiscarded => .debug
  | cacheInvalidated => .debug
  | rescanStarting _ => .info
  | rescanCancelling => .info
  | rescanFailed _ => .error
  | rescanSummary _ => .info
  | rescanCanceled _ => .info
  | rescanProgress _ => .info
  | bestBlock _ => .debug
  | bestBlockFailed _ => .error
  | creating => .info
  | seedRejected _ => .error
  | createFailed _ => .error
  | created => .info
  | openFailed _ => .error
  | indexFailed _ => .error
  | opened _ => .info
  | locked => .info
  | indexCloseFailed _ => .error
  | closed => .info
  | shutdownRequested => .info

def area : LogRecord → Area
  | listenerPanicked _ => .events
  | listenerAdded _ => .calls
  | peerConnected _ => .notifications
  | peerDisconnected _ => .notifications
  | walletSynced _ => .notifications
  | starting _ => .session
  | startFailed _ => .session
  | cancellingSync => .session
  | syncStopped _ => .session
  | syncCanceled _ _ => .session
  | syncFailed _ _ => .session
  | peerInvalid _ => .selection
  | peersRestricted _ => .selection
  | clientReused => .selection
  | connecting _ => .selection
  | connected _ => .selection
  | connectFailed _ _ => .selection
  | clientDiscarded => .clientCache
  | cacheInvalidated => .clientCache
  | rescanStarting _ => .rescan
  | rescanCancelling => .rescan
  | rescanFailed _ => .rescan
  | rescanSummary _ => .rescan
  | rescanCanceled _ => .rescan
  | rescanProgress _ => .progress
  | bestBlock _ => .calls
  | bestBlockFailed _ => .calls
  | creating => .lifecycle
  | seedRejected _ => .lifecycle
  | createFailed _ => .lifecycle
  | created => .lifecycle
  | openFailed _ => .lifecycle
  | indexFailed _ => .lifecycle
  | opened _ => .lifecycle
  | locked => .lifecycle
  | indexCloseFailed _ => .lifecycle
  | closed => .lifecycle
  | shutdownRequested => .shutdown

def text : LogRecord → String
  | listenerPanicked listener =>
    "Listener " ++ listener ++ " panicked while handling a progress event"
  | listenerAdded total => s!"Registered progress listener, {total} total"
  | peerConnected count => "Peer connected, " ++ toString count.toInt ++ " connected peers"
  | peerDisconnected count => "Peer disconnected, " ++ toString count.toInt ++ " connected peers"
  | walletSynced synced => s!"Wallet synced: {synced}"
  | starting config => "Starting " ++ config.inspect ++ " sync"
  | startFailed e => "Failed to start sync: " ++ e.message
  | cancellingSync => "Cancelling sync"
  | syncStopped kind => kind.name ++ " synchronization stopped"
  | syncCanceled kind e => kind.name ++ " synchronization canceled: " ++ e.message
  | syncFailed kind e => kind.name ++ " synchronization failed: " ++ e.message
  | peerInvalid e => "SPV peer address invalid: " ++ e.message
  | peersRestricted count => s!"Using {count} persistent SPV peers"
  | clientReused => "Reusing cached RPC client"
  | connecting address => "Connecting to RPC server at " ++ address
  | connected address => "Connected to RPC server at " ++ address
  | connectFailed address e => "RPC connection to " ++ address ++ " failed: " ++ e.message
  | clientDiscarded => "RPC client already cached, discarding concurrent connection"
  | cacheInvalidated => "Invalidated cached RPC client"
  | rescanStarting backend => "Starting rescan from height 0 using " ++ backend
  | rescanCancelling => "Cancelling rescan"
  | rescanFailed e => "Rescan failed: " ++ e.message
  | rescanSummary tracker => tracker.summary
  | rescanCanceled height => "Rescan canceled at height " ++ toString height.toInt
  | rescanProgress tracker => tracker.line
  | bestBlock block =>
    "Best block " ++ block.hash ++ " at height " ++ toString block.height.toInt ++ " mined " ++
      (Time.rfc3339? block.timestamp.toInt).getD "at an invalid time"
  | bestBlockFailed e => "Failed to get best block info: " ++ e.message
  | creating => "Creating wallet"
  | seedRejected e => e.message
  | createFailed e => "Failed to create wallet: " ++ e.message
  | created => "Created wallet"
  | openFailed e => "Failed to open wallet: " ++ e.message
  | indexFailed e => "Error initializing tx index database: " ++ e.message
  | opened indexPath => "Opened wallet, tx index at " ++ Text.quote indexPath
  | locked => "Wallet locked"
  | indexCloseFailed e => "Failed to close tx index database: " ++ e.message
  | closed => "Closed wallet"
  | shutdownRequested => "Shutdown requested, cancelling background sync work"

def line (record : LogRecord) : String :=
  record.level.name ++ " " ++ record.text

end LogRecord

end ChainFollower

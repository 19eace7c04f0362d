import ChainFollower.Config
import ChainFollower.History
import ChainFollower.Script

/-!
A follower together with its collaborators: the wallet and its loader, the index store, the maker of
backends, the listeners, and the tasks under way. Every field is something that a later call can
show. The history is kept latest first.
-/

namespace ChainFollower

/-- Who a cancellation token was made for. Shutting down cancels all of them, also those to come. -/
inductive Token where
  | start (attempt : Nat)
  | rescan (attempt : Nat)
  deriving DecidableEq, Repr

structure Session where
  state : SyncState
  backend : Option Backend
  token : Option Token
  deriving DecidableEq, Repr

structure RescanSlot where
  running : Bool
  token : Option Token
  deriving DecidableEq, Repr

structure Wallet where
  locked : Bool
  privatePass : Bytes
  publicPass : Bytes
  link : Option Link
  tip : ChainTip
  /-- The time of the tip, if the wallet knows it. -/
  blockTime : Option Int64
  addresses : Nat
  rescan : RescanScript
  deriving DecidableEq, Repr

structure Loader where
  walletExists : Bool
  loaded : Bool
  link : Option Link
  deriving DecidableEq, Repr

/-- What backends built from now on will do. -/
structure BackendScripts where
  spvRun : RunScript
  rpcRun : RunScript
  rpcConnect : Gate ConnectError
  deriving DecidableEq, Repr

structure PendingStart where
  attempt : Nat
  client : Client
  address : String
  deriving DecidableEq, Repr

structure RunLoop where
  number : Nat
  attempt : Nat
  backend : Backend
  begun : Bool
  deriving DecidableEq, Repr

inductive Report where
  | height (height : Height)
  | failure (e : WalletError)
  deriving DecidableEq, Repr

/-- The wallet's side of a rescan. -/
inductive Producer where
  | ready
  /-- `waiting` is a report that passed the test for cancellation and has no room yet. -/
  | scanning (script : RescanScript) (waiting : Option Report)
  | ended
  deriving DecidableEq, Repr

/-- The two tasks of a rescan and the channel between them, oldest report first. -/
structure RescanJob where
  number : Nat
  attempt : Nat
  link : Link
  producer : Producer
  channel : List Report
  tracker : Tracker
  /-- The reader has not ended. -/
  reading : Bool
  deriving DecidableEq, Repr

structure Counts where
  startAttempts : Nat
  syncs : Nat
  rescanAttempts : Nat
  rescans : Nat
  spvSyncers : Nat
  rpcSyncers : Nat
  clients : Nat
  indexes : Nat
  deriving DecidableEq, Repr

structure Follower where
  config : Config
  listeners : List Listener
  session : Session
  cache : ClientCache
  rescanSlot : RescanSlot
  /-- The transaction index that is held, by its number. -/
  index : Option Nat
  shutdown : Bool
  cancelled : List Token
  wallet : Wallet
  loader : Loader
  /-- The index store got the wallet's address functions. -/
  indexBound : Bool
  scripts : BackendScripts
  faults : List (Place × Fault)
  /-- Syncers with what they do, the last one first. -/
  syncers : List (Syncer × RunScript)
  /-- Clients that were made for a connection, with their gates, the last one first. -/
  clients : List (Client × Gate ConnectError)
  starts : List PendingStart
  runs : List RunLoop
  rescans : List RescanJob
  /-- The number of the rescan that was begun last. -/
  lastRescan : Option Nat
  counts : Counts
  history : List Happening

namespace Follower

def note (f : Follower) (happening : Happening) : Follower :=
  { f with history := happening :: f.history }

def saw (f : Follower) (sight : Sight) : Follower :=
  f.note (.saw sight)

def log (f : Follower) (record : LogRecord) : Follower :=
  f.note (.logged record)

/-- Assigns the session's state; watchers are notified, also when it is the same. -/
def setState (f : Follower) (state : SyncState) : Follower :=
  { f with session := { f.session with state := state } }.note (.stateSet state)

def isCancelled (f : Follower) (token : Token) : Bool :=
  f.shutdown || f.cancelled.contains token

def cancel (f : Follower) (token : Token) : Follower :=
  { f with cancelled := token :: f.cancelled }

def requestShutdown (f : Follower) : Follower :=
  { f.log .shutdownRequested with shutdown := true }

def fault? (f : Follower) (place : Place) : Option Fault :=
  f.faults.lookup place

def register (f : Follower) (listener : Listener) : Follower :=
  { f with listeners := f.listeners ++ [listener] }

def addListener (f : Follower) (listener : Listener) : Follower :=
  let f := f.register listener
  f.log (.listenerAdded f.listeners.length)

def setLink (f : Follower) (link : Option Link) : Follower :=
  { f with wallet := { f.wallet with link := link } }

end Follower

end ChainFollower

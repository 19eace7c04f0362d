import ChainFollower.Progress.Event

/-!
What collaborators are set up to do: the results that their calls have, and when.
-/

namespace ChainFollower

/-- How a call that can fail with `ε` ends. -/
inductive Reply (ε : Type) where
  | ok
  | error (e : ε)
  | panic (text : String)
  deriving DecidableEq, Repr

structure Gate (ε : Type) where
  result : Option (Reply ε)
  /-- Given from outside later. -/
  released : Option (Reply ε)
  /-- Given when the call is cancelled; nothing if it does not notice. -/
  onCancel : Option (Reply ε)
  deriving DecidableEq, Repr

namespace Gate

/-- The reply, if the call need not wait. A reply that is there wins over cancellation. -/
def reply? {ε : Type} (gate : Gate ε) (cancelled : Bool) : Option (Reply ε) :=
  match gate.result with
  | some reply => some reply
  | none =>
    match gate.released with
    | some reply => some reply
    | none => if cancelled then gate.onCancel else none

def release {ε : Type} (gate : Gate ε) (reply : Reply ε) : Gate ε :=
  { gate with released := some reply }

end Gate

inductive Notification where
  | peerConnected (count : Int32)
  | peerDisconnected (count : Int32)
  | synced (caughtUp : Bool)
  | rescanProgress (height : Height)
  | rescanFinished (height : Height)
  deriving DecidableEq, Repr

/-- The run of a backend: what it tells at its start, and how it ends. -/
structure RunScript where
  notices : List Notification
  gate : Gate RunError
  deriving DecidableEq, Repr

def RunScript.waiting : RunScript := ⟨[], ⟨none, none, some (.error .canceled)⟩⟩

def Gate.connecting : Gate ConnectError := ⟨some .ok, none, some (.error .canceled)⟩

/-- What the wallet does during a rescan: it sends a height, or all heights from one to another, or
the error that ends the scan; or it panics. -/
inductive RescanItem where
  | height (height : Height)
  | range (first last : Height)
  | failure (e : WalletError)
  | panic
  deriving DecidableEq, Repr

inductive RescanEnd where
  | wait
  | close
  | panic
  deriving DecidableEq, Repr

structure RescanScript where
  items : List RescanItem
  ending : RescanEnd
  ignoresCancel : Bool
  deriving DecidableEq, Repr

/-- A call of a collaborator that can be made to fail. -/
inductive Place where
  | walletExists
  | create
  | openWallet
  | unload
  | loaderBackend
  | unlock
  | changePrivate
  | changePublic
  | walletBackend
  | blockInfo
  | nextAddress
  | indexInit
  | indexClose
  | spvSyncer
  | rpcClient
  | rpcSyncer
  /-- A new syncer is given the callbacks that it reports through. -/
  | notifications
  | peers
  /-- A built backend is asked for its link. -/
  | backendLink
  deriving DecidableEq, Repr

inductive Fault where
  | error (e : WalletError)
  | panic (text : String)
  deriving DecidableEq, Repr

inductive Action where
  /-- The callback returns; the reactions behind this one are for later calls. -/
  | leave
  | panic
  /-- Another listener is registered, which takes over so many of the reactions that are left. -/
  | addListener (heirs : Nat := 0)
  | cancelSync
  | cancelRescan
  deriving DecidableEq, Repr

structure Reaction where
  on : Callback
  action : Action
  deriving DecidableEq, Repr

/-- A listener records the events that it hears and does what its reactions say, each of them once.
A silent one has no callbacks. -/
structure Listener where
  silent : Bool
  reactions : List Reaction
  deriving DecidableEq, Repr

namespace Listener

def plain : Listener := ⟨false, []⟩

/-- The first action for a callback, and the reactions that are left. -/
def takeReaction (callback : Callback) : List Reaction → Option (Action × List Reaction)
  | [] => none
  | r :: rest =>
    if r.on = callback then some (r.action, rest)
    else (takeReaction callback rest).map (fun found => (found.1, r :: found.2))

/-- Listeners are named by the order of their registration. -/
def name (position : Nat) : String :=
  "L" ++ toString position

end Listener

end ChainFollower

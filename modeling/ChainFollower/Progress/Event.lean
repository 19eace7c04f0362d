import ChainFollower.Chain
import ChainFollower.Error
import ChainFollower.Network.Endpoint

/-!
What listeners are told.
-/

namespace ChainFollower

inductive Phase where
  | progress
  | finish
  deriving DecidableEq, Repr

def Phase.name : Phase → String
  | progress => "Progress"
  | finish => "Finish"

/-- The class of an error that listeners are told of. -/
inductive ErrorCode where
  | unclassified
  | canceled
  | deadlineExceeded
  /-- A peer that was given is left out; the sync goes on. -/
  | invalidPeerAddress
  | rescanFailed
  deriving DecidableEq, Repr

namespace ErrorCode

def name : ErrorCode → String
  | unclassified => "Unclassified"
  | canceled => "Canceled"
  | deadlineExceeded => "DeadlineExceeded"
  | invalidPeerAddress => "InvalidPeerAddress"
  | rescanFailed => "RescanFailed"

def number : ErrorCode → Int
  | unclassified => -1
  | canceled => 1
  | deadlineExceeded => 2
  | invalidPeerAddress => 3
  | rescanFailed => 4

/-- Whether the error ends what it happened to. -/
def isTerminal : ErrorCode → Bool
  | invalidPeerAddress => false
  | _ => true

def display (code : ErrorCode) : String :=
  code.name ++ "(" ++ toString code.number ++ ")"

end ErrorCode

inductive Cause where
  | run (e : RunError)
  | address (e : AddressError)
  | wallet (e : WalletError)
  deriving DecidableEq, Repr

def Cause.message : Cause → String
  | run e => e.message
  | address e => e.message
  | wallet e => e.message

inductive Event where
  | peerConnected (count : Int32)
  /-- The count is -1 when the backend does not know its peers. -/
  | peerDisconnected (count : Int32)
  | rescan (height : Height) (phase : Phase)
  | synced (caughtUp : Bool)
  | syncError (code : ErrorCode) (cause : Cause)
  deriving DecidableEq, Repr

inductive Callback where
  | peerConnected
  | peerDisconnected
  | rescan
  | synced
  | syncError
  deriving DecidableEq, Repr

namespace Event

def callback : Event → Callback
  | peerConnected _ => .peerConnected
  | peerDisconnected _ => .peerDisconnected
  | rescan _ _ => .rescan
  | synced _ => .synced
  | syncError _ _ => .syncError

def describe : Event → String
  | peerConnected count => "peer_connected " ++ toString count.toInt
  | peerDisconnected count => "peer_disconnected " ++ toString count.toInt
  | rescan height phase => "rescan " ++ toString height.toInt ++ " " ++ phase.name
  | synced caughtUp => "synced " ++ toString caughtUp
  | syncError code cause =>
    "sync_error " ++ code.display ++ " terminal=" ++ toString code.isTerminal ++ ": " ++
      cause.message

end Event

end ChainFollower

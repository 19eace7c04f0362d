import ChainFollower.Json.Problem

/-!
Errors as causes. Each collaborator reports errors of its own; `SyncError` is what callers of the
library see.
-/

namespace ChainFollower

/-- Reported by the wallet, its loader and the index store. -/
inductive WalletError where
  | invalidPassphrase
  | notExist
  | alreadyExists
  | locked
  | canceled
  | other (text : String)
  deriving DecidableEq, Repr

namespace WalletError

def message : WalletError → String
  | invalidPassphrase => "invalid passphrase"
  | notExist => "wallet does not exist"
  | alreadyExists => "wallet already exists"
  | locked => "wallet is locked"
  | canceled => "operation canceled"
  | other text => text

def inspect : WalletError → String
  | invalidPassphrase => "InvalidPassphrase"
  | notExist => "NotExist"
  | alreadyExists => "AlreadyExists"
  | locked => "Locked"
  | canceled => "Canceled"
  | other text => "Other(" ++ Text.quote text ++ ")"

end WalletError

/-- How a run of a backend ends when it does not simply stop. -/
inductive RunError where
  | canceled
  | deadlineExceeded
  | other (text : String)
  deriving DecidableEq, Repr

namespace RunError

def message : RunError → String
  | canceled => "context canceled"
  | deadlineExceeded => "context deadline exceeded"
  | other text => text

def inspect : RunError → String
  | canceled => "Canceled"
  | deadlineExceeded => "DeadlineExceeded"
  | other text => "Other(" ++ Text.quote text ++ ")"

end RunError

/-- Why an attempt to connect to an RPC server failed. -/
inductive ConnectError where
  | invalidAuth
  | canceled
  | other (text : String)
  deriving DecidableEq, Repr

namespace ConnectError

def message : ConnectError → String
  | invalidAuth => "invalid RPC credentials"
  | canceled => "connection attempt canceled"
  | other text => text

def inspect : ConnectError → String
  | invalidAuth => "InvalidAuth"
  | canceled => "Canceled"
  | other text => "Other(" ++ Text.quote text ++ ")"

end ConnectError

inductive FileError where
  | missing
  | directory
  | notText
  | other (text : String)
  deriving DecidableEq, Repr

def FileError.message : FileError → String
  | missing => "No such file or directory (os error 2)"
  | directory => "Is a directory (os error 21)"
  | notText => "stream did not contain valid UTF-8"
  | other text => text

inductive SyncError where
  | emptySeed
  | invalidSeed (reason : String)
  | invalidPeers
  | invalidAddress (reason : String)
  | syncAlreadyInProgress
  | walletNotLoaded
  | walletNotExist
  | walletExists
  | walletLocked
  | invalidPassphrase
  | notConnected
  | rescanInProgress
  | contextCanceled
  | unavailable (reason : String)
  | invalidAuth
  | txIndex (reason : String)
  | wallet (cause : WalletError)
  | sync (cause : RunError)
  | config (reason : String)
  | logging (reason : String)
  | json (problem : Json.Problem)
  | file (cause : FileError)

namespace SyncError

def message : SyncError → String
  | emptySeed => "seed mnemonic is empty"
  | invalidSeed reason => "invalid seed: " ++ reason
  | invalidPeers => "no valid peer addresses"
  | invalidAddress reason => "invalid network address: " ++ reason
  | syncAlreadyInProgress => "synchronization already in progress"
  | walletNotLoaded => "wallet has not been loaded"
  | walletNotExist => "wallet does not exist"
  | walletExists => "wallet already exists"
  | walletLocked => "wallet is locked"
  | invalidPassphrase => "invalid passphrase"
  | notConnected => "not connected to a network backend"
  | rescanInProgress => "invalid operation: rescan already in progress"
  | contextCanceled => "context canceled"
  | unavailable reason => "network backend unavailable: " ++ reason
  | invalidAuth => "invalid RPC credentials"
  | txIndex reason => "tx index db initialization failed: " ++ reason
  | wallet cause => "wallet error: " ++ cause.message
  | sync cause => "Sync error: " ++ cause.message
  | config reason => "Configuration error: " ++ reason
  | logging reason => "Logging error: " ++ reason
  | json problem => "JSON parse error: " ++ problem.message
  | file cause => "IO error: " ++ cause.message

/-- What callers see of a collaborator's error. -/
def ofWallet : WalletError → SyncError
  | .invalidPassphrase => invalidPassphrase
  | .notExist => walletNotExist
  | .alreadyExists => walletExists
  | .locked => walletLocked
  | .canceled => contextCanceled
  | .other text => wallet (.other text)

end SyncError

/-- What ends a piece of work before it has a result: an error, or a panic with its text. -/
inductive Stop where
  | failed (e : SyncError)
  | panicked (text : String)

end ChainFollower

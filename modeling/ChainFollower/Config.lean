import ChainFollower.Error
import ChainFollower.Network.Coding

/-!
The configuration: where the wallet is kept, which network it follows, and how much rescan progress
may wait for its reader.
-/

namespace ChainFollower

structure Config where
  dataDir : String
  network : Network
  /-- Progress reports of a rescan that may wait to be read. -/
  rescanCapacity : UInt64
  deriving DecidableEq, Repr

namespace Config

/-- Stands in for whatever a file leaves out. -/
def standard : Config := ⟨".", Network.mainnet, 1⟩

def new (dataDir : String) (network : Network) : Config :=
  { standard with dataDir := dataDir, network := network }

/-- What is wrong with a configuration, the capacity before the ports. -/
def problem? (config : Config) : Option SyncError :=
  if config.rescanCapacity = 0 then
    some (.config "rescan_channel_capacity must be greater than zero")
  else if config.network.peerPort = 0 ∨ config.network.rpcPort = 0 then
    some (.config ("network " ++ config.network.name ++ " has no default ports"))
  else none

def validate (config : Config) : Except SyncError Unit :=
  match config.problem? with
  | some e => .error e
  | none => .ok ()

def indexIn (dir : List Char) : List Char :=
  let name := "txindex.db".toList
  if dir.isEmpty then name
  else if dir.getLast? = some '/' then dir ++ name
  else dir ++ '/' :: name

def indexPath (config : Config) : String :=
  String.ofList (indexIn config.dataDir.toList)

structure Draft where
  dataDir : Option String
  network : Option Network
  rescanCapacity : Option UInt64

def shape : Json.Shape Draft Config where
  title := "struct WalletSyncConfig"
  start := ⟨none, none, none⟩
  fields := [
    ⟨"data_dir", fun draft => draft.dataDir.isSome, fun draft s =>
      (Json.readText "path string" s).map
        (fun result => ({ draft with dataDir := result.1 }, result.2))⟩,
    ⟨"network", fun draft => draft.network.isSome, fun draft s =>
      (Network.read s).map (fun result => ({ draft with network := result.1 }, result.2))⟩,
    ⟨"rescan_channel_capacity", fun draft => draft.rescanCapacity.isSome, fun draft s =>
      (Json.readInteger 0 18446744073709551615 "usize" s).map
        (fun result => ({ draft with rescanCapacity := UInt64.ofNat result.1.toNat }, result.2))⟩]
  short := none
  finish draft :=
    .ok ⟨draft.dataDir.getD standard.dataDir, draft.network.getD standard.network,
      draft.rescanCapacity.getD standard.rescanCapacity⟩

/-- Reads a configuration; a field that is left out has its standard value. -/
def read : Json.Scan Config :=
  Json.readRecord shape

def write (config : Config) : List Char :=
  Json.writeObject [
    ("data_dir", Json.writeString config.dataDir),
    ("network", config.network.write),
    ("rescan_channel_capacity", Json.writeNatural config.rescanCapacity.toNat)]

def ofText (text : String) : Except SyncError Config :=
  match Json.readWhole read text with
  | .error problem => .error (.json problem)
  | .ok config =>
    match config.problem? with
    | some e => .error e
    | none => .ok config

inductive File where
  | missing
  | directory
  | content (bytes : Bytes)

def load : File → Except SyncError Config
  | .missing => .error (.file .missing)
  | .directory => .error (.file .directory)
  | .content bytes =>
    match bytes.toString? with
    | none => .error (.file .notText)
    | some text => ofText text

end Config

end ChainFollower

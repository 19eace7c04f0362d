import ChainFollower.Json.Decode
import ChainFollower.Json.Write
import ChainFollower.Network.Params

/-!
Networks in JSON.
-/

namespace ChainFollower.Network

structure Draft where
  name : Option String
  peerPort : Option UInt16
  rpcPort : Option UInt16

namespace Draft

def empty : Draft := ⟨none, none, none⟩

def readPort : Json.Scan UInt16 := fun s =>
  (Json.readInteger 0 65535 "u16" s).map (fun result => (UInt16.ofNat result.1.toNat, result.2))

def shape : Json.Shape Draft Network where
  title := "struct NetworkParams"
  start := empty
  fields := [
    ⟨"name", fun draft => draft.name.isSome, fun draft s =>
      (Json.readText "a string" s).map (fun result => ({ draft with name := result.1 }, result.2))⟩,
    ⟨"default_port", fun draft => draft.peerPort.isSome, fun draft s =>
      (readPort s).map (fun result => ({ draft with peerPort := result.1 }, result.2))⟩,
    ⟨"rpc_client_port", fun draft => draft.rpcPort.isSome, fun draft s =>
      (readPort s).map (fun result => ({ draft with rpcPort := result.1 }, result.2))⟩]
  short := some (fun index => .invalidLength index "struct NetworkParams with 3 elements")
  finish draft :=
    match draft.name, draft.peerPort, draft.rpcPort with
    | none, _, _ => .error (.missingField "name")
    | _, none, _ => .error (.missingField "default_port")
    | _, _, none => .error (.missingField "rpc_client_port")
    | some name, some peerPort, some rpcPort => .ok ⟨name, peerPort, rpcPort⟩

end Draft

/-- Reads a network; no field may be missing. -/
def read : Json.Scan Network :=
  Json.readRecord Draft.shape

def write (network : Network) : List Char :=
  Json.writeObject [
    ("name", Json.writeString network.name),
    ("default_port", Json.writeNatural network.peerPort.toNat),
    ("rpc_client_port", Json.writeNatural network.rpcPort.toNat)]

end ChainFollower.Network

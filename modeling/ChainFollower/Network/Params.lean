import ChainFollower.Text.Quoted

/-!
The networks a wallet can follow, and the ports that stand in where an address gives none.
-/

namespace ChainFollower

structure Network where
  name : String
  /-- Appended to peer addresses without a port. -/
  peerPort : UInt16
  /-- Appended to the addresses of RPC servers without a port. -/
  rpcPort : UInt16
  deriving DecidableEq, Repr

namespace Network

def mainnet : Network := ⟨"mainnet", 9108, 9109⟩

def testnet3 : Network := ⟨"testnet3", 19108, 19109⟩

def simnet : Network := ⟨"simnet", 18555, 19556⟩

/-- The known network of that name; the test network also answers to a shorter one. -/
def named? (name : String) : Option Network :=
  if name = "mainnet" then some mainnet
  else if name = "testnet3" ∨ name = "testnet" then some testnet3
  else if name = "simnet" then some simnet
  else none

def inspect (network : Network) : String :=
  "NetworkParams \x7b name: " ++ Text.quote network.name ++
    ", default_port: " ++ toString network.peerPort.toNat ++
    ", rpc_client_port: " ++ toString network.rpcPort.toNat ++ " \x7d"

end Network

end ChainFollower

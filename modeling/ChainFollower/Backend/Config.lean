import ChainFollower.Network.Params
import ChainFollower.Text.Blank
import ChainFollower.Text.Hex

/-!
How a wallet is to reach the network: peers of its own, or the RPC server of a node that it trusts.
-/

namespace ChainFollower

inductive BackendKind where
  | spv
  | rpc
  deriving DecidableEq, Repr

namespace BackendKind

def name : BackendKind → String
  | spv => "SPV"
  | rpc => "RPC"

/-- Only a backend of peers knows how many there are. -/
def reportsPeers : BackendKind → Bool
  | spv => true
  | rpc => false

end BackendKind

inductive BackendConfig where
  /-- Sync with peers, any at all if none are given. -/
  | spv (peers : List String)
  | rpc (address username password : String) (certificate : Option Bytes)
  deriving DecidableEq, Repr

namespace BackendConfig

/-- The entries of a list that semicolons divide, trimmed; blank ones are dropped. -/
def peersOf (text : String) : List String :=
  (((Text.splitWhen (· == ';') text.toList).map Text.trim).filter (fun peer => !peer.isEmpty)).map
    String.ofList

def ofPeerText (text : String) : BackendConfig :=
  spv (peersOf text)

/-- An empty certificate is none. -/
def ofServer (address username password : String) (certificate : Bytes) : BackendConfig :=
  rpc address username password (if certificate.isEmpty then none else some certificate)

def kind : BackendConfig → BackendKind
  | spv _ => .spv
  | rpc .. => .rpc

/-- The diagnostic form, on one line. Passwords and certificates are left out. -/
def inspect : BackendConfig → String
  | spv peers =>
    "Spv \x7b peers: [" ++ String.intercalate ", " (peers.map Text.quote) ++ "] \x7d"
  | rpc address username _ certificate =>
    "Rpc \x7b address: " ++ Text.quote address ++ ", username: " ++ Text.quote username ++
      ", tls: " ++ toString certificate.isSome ++ ", .. \x7d"

def inspectLines : BackendConfig → String
  | spv [] => "Spv \x7b\n    peers: [],\n\x7d"
  | spv peers =>
    "Spv \x7b\n    peers: [\n" ++
      String.join (peers.map (fun peer => "        " ++ Text.quote peer ++ ",\n")) ++
      "    ],\n\x7d"
  | rpc address username _ certificate =>
    "Rpc \x7b\n    address: " ++ Text.quote address ++ ",\n    username: " ++ Text.quote username ++
      ",\n    tls: " ++ toString certificate.isSome ++ ",\n    ..\n\x7d"

end BackendConfig

structure ServerParams where
  network : Network
  address : String
  username : String
  password : String
  certificate : Bytes
  disableTls : Bool
  deriving DecidableEq, Repr

namespace ServerParams

/-- The fields of the diagnostic form; the password and the certificate's bytes are not among
them. -/
def shown (params : ServerParams) : List (String × String) :=
  [("network", Text.quote params.network.name), ("address", Text.quote params.address),
    ("username", Text.quote params.username),
    ("certificate_len", toString params.certificate.length),
    ("disable_tls", toString params.disableTls)]

/-- The diagnostic form, on one line. -/
def inspect (params : ServerParams) : String :=
  "RpcConnectParams \x7b " ++
    String.join (params.shown.map (fun field => field.1 ++ ": " ++ field.2 ++ ", ")) ++ ".. \x7d"

def inspectLines (params : ServerParams) : String :=
  "RpcConnectParams \x7b\n" ++
    String.join (params.shown.map (fun field => "    " ++ field.1 ++ ": " ++ field.2 ++ ",\n")) ++
    "    ..\n\x7d"

end ServerParams

end ChainFollower

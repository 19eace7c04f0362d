import ChainFollower.Network.Ip
import ChainFollower.Text.Blank
import ChainFollower.Text.Quoted

/-!
Addresses of peers and servers as users type them, read into endpoints that always have a port.
-/

namespace ChainFollower

inductive Host where
  | ipv4 (ip : Ipv4)
  /-- The scope is zero when none is given. -/
  | ipv6 (ip : Ipv6) (scope : UInt32)
  | name (text : List Char)
  deriving DecidableEq

structure Endpoint where
  host : Host
  port : UInt16
  deriving DecidableEq

/-- Why a text is no address; the trimmed text is kept for the message. -/
inductive AddressError where
  | empty
  | invalidHost (text : String)
  | invalidPort (text : String)
  deriving DecidableEq, Repr

namespace AddressError

def message : AddressError → String
  | empty => "address is empty"
  | invalidHost text => "invalid host in address " ++ Text.quote text
  | invalidPort text => "invalid port in address " ++ Text.quote text

def inspect : AddressError → String
  | empty => "Empty"
  | invalidHost text => "InvalidHost(" ++ Text.quote text ++ ")"
  | invalidPort text => "InvalidPort(" ++ Text.quote text ++ ")"

end AddressError

namespace Host

def render : Host → List Char
  | ipv4 ip => ip.render
  | ipv6 ip scope =>
    if scope = 0 then '[' :: ip.render ++ [']']
    else '[' :: ip.render ++ '%' :: Text.decimal scope.toNat ++ [']']
  | name text => text

def isNameChar (c : Char) : Bool :=
  let n := c.toNat
  (48 ≤ n && n ≤ 57) || (97 ≤ n && n ≤ 122) || (65 ≤ n && n ≤ 90) || c == '-' || c == '_'

def isLabel (s : List Char) : Bool :=
  !s.isEmpty && s.length ≤ 63 && s.head? != some '-' && s.getLast? != some '-' && s.all isNameChar

/-- Labels divided by dots, 253 characters at most. All of them are ASCII, so that characters and
bytes count alike. -/
def isName (s : List Char) : Bool :=
  !s.isEmpty && s.length ≤ 253 && (Text.splitWhen (· == '.') s).all isLabel

end Host

namespace Endpoint

def render (endpoint : Endpoint) : String :=
  String.ofList (endpoint.host.render ++ ':' :: Text.decimal endpoint.port.toNat)

def maxPort : Nat := 65535

def readPort : Reader UInt16 := fun s =>
  match Reader.char ':' s with
  | none => none
  | some (_, rest) =>
    match Reader.number maxPort rest with
    | some (n, rest) => some (UInt16.ofNat n, rest)
    | none => none

def readIpv4 : Reader Endpoint := fun s =>
  match Ipv4.read s with
  | none => none
  | some (ip, rest) =>
    match readPort rest with
    | some (port, rest) => some (⟨.ipv4 ip, port⟩, rest)
    | none => none

/-- A decimal scope behind a percent sign; anything else is left where it is. -/
def readScope (s : List Char) : UInt32 × List Char :=
  match s with
  | '%' :: rest =>
    match Reader.number 4294967295 rest with
    | some (n, rest) => (UInt32.ofNat n, rest)
    | none => (0, s)
  | _ => (0, s)

/-- An IPv6 address in brackets, perhaps with a scope, with a port. -/
def readIpv6 : Reader Endpoint := fun s =>
  match Reader.char '[' s with
  | none => none
  | some (_, rest) =>
    match Ipv6.read rest with
    | none => none
    | some (ip, rest) =>
      let suffix := readScope rest
      match Reader.char ']' suffix.2 with
      | none => none
      | some (_, rest) =>
        match readPort rest with
        | some (port, rest) => some (⟨.ipv6 ip suffix.1, port⟩, rest)
        | none => none

def socket? (s : List Char) : Option Endpoint :=
  match Reader.whole readIpv4 s with
  | some endpoint => some endpoint
  | none => Reader.whole readIpv6 s

def literal? (s : List Char) : Option Host :=
  match Reader.whole Ipv4.read s with
  | some ip => some (.ipv4 ip)
  | none => (Reader.whole Ipv6.read s).map (fun ip => .ipv6 ip 0)

/-- What stands between brackets that enclose the whole text. -/
def bracketed? : List Char → Option (List Char)
  | '[' :: rest => Text.dropLast? ']' rest
  | _ => none

/-- A host name, with a port behind its last colon or without any. -/
def named (defaultPort : UInt16) (s : List Char) : Except AddressError Endpoint :=
  match Text.splitLast ':' s with
  | some (host, port) =>
    if Host.isName host then
      match Text.signedDecimal? maxPort port with
      | some n => .ok ⟨.name host, UInt16.ofNat n⟩
      | none => .error (.invalidPort (String.ofList s))
    else .error (.invalidHost (String.ofList s))
  | none =>
    if Host.isName s then .ok ⟨.name s, defaultPort⟩
    else .error (.invalidHost (String.ofList s))

def ofTrimmed (defaultPort : UInt16) (s : List Char) : Except AddressError Endpoint :=
  match socket? s with
  | some endpoint => .ok endpoint
  | none =>
    match literal? s with
    | some host => .ok ⟨host, defaultPort⟩
    | none =>
      match bracketed? s with
      | some inner =>
        match Reader.whole Ipv6.read inner with
        | some ip => .ok ⟨.ipv6 ip 0, defaultPort⟩
        | none => .error (.invalidHost (String.ofList s))
      | none => named defaultPort s

/-- Reads an address; one without a port gets the default one. -/
def ofAddress (defaultPort : UInt16) (address : String) : Except AddressError Endpoint :=
  let s := Text.trim address.toList
  if s.isEmpty then .error .empty else ofTrimmed defaultPort s

end Endpoint

end ChainFollower

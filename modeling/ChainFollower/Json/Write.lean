import ChainFollower.Text.Number
import ChainFollower.Text.Hex

/-!
Compact JSON: no space between tokens, and in strings an escape only where the format asks for one.
-/

namespace ChainFollower.Json

/-- How one character stands in a string: controls have an escape, the common ones a short one. -/
def escapeChar (c : Char) : List Char :=
  if c = '"' then ['\\', '"']
  else if c = '\\' then ['\\', '\\']
  else if c = '\x08' then ['\\', 'b']
  else if c = '\x0c' then ['\\', 'f']
  else if c = '\n' then ['\\', 'n']
  else if c = '\r' then ['\\', 'r']
  else if c = '\t' then ['\\', 't']
  else if c.toNat < 0x20 then
    ['\\', 'u', '0', '0', Bytes.hexDigit (c.toNat / 16), Bytes.hexDigit (c.toNat % 16)]
  else [c]

def writeString (s : String) : List Char :=
  '"' :: s.toList.flatMap escapeChar ++ ['"']

def writeNatural (n : Nat) : List Char :=
  Text.decimal n

def writeInteger (n : Int) : List Char :=
  if n < 0 then '-' :: Text.decimal n.natAbs else Text.decimal n.natAbs

def writeMembers : List (String × List Char) → List Char
  | [] => []
  | [(name, value)] => writeString name ++ ':' :: value
  | (name, value) :: rest => writeString name ++ ':' :: value ++ ',' :: writeMembers rest

def writeObject (members : List (String × List Char)) : List Char :=
  '\x7b' :: writeMembers members ++ ['\x7d']

end ChainFollower.Json

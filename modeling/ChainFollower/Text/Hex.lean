import ChainFollower.Text.Number

/-!
Bytes, and their hexadecimal form of two digits each.
-/

namespace ChainFollower

abbrev Bytes := List UInt8

namespace Bytes

def ofString (s : String) : Bytes :=
  s.toUTF8.toList

/-- The text that the bytes encode in UTF-8, if they do. -/
def toString? (bytes : Bytes) : Option String :=
  String.fromUTF8? (ByteArray.mk bytes.toArray)

def hexDigit (n : Nat) : Char :=
  if n < 10 then Char.ofNat (48 + n) else Char.ofNat (87 + n)

def toHexChars : Bytes → List Char
  | [] => []
  | b :: rest => hexDigit (b.toNat / 16) :: hexDigit (b.toNat % 16) :: toHexChars rest

def toHex (bytes : Bytes) : String :=
  String.ofList (toHexChars bytes)

/-- Reads pairs of hexadecimal digits of either case; an odd digit at the end is refused. -/
def ofHex? : List Char → Option Bytes
  | [] => some []
  | [_] => none
  | high :: low :: rest =>
    match Text.hexValue? high, Text.hexValue? low, ofHex? rest with
    | some h, some l, some bytes => some (UInt8.ofNat (16 * h + l) :: bytes)
    | _, _, _ => none

end Bytes

end ChainFollower

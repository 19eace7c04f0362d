import ChainFollower.Error
import ChainFollower.Seed.Mnemonic
import ChainFollower.Text.Blank

/-!
Seeds as users type them: hexadecimal digits, or the words of a mnemonic.
-/

namespace ChainFollower.Seed

inductive Problem where
  | empty
  | hexLength (count : Nat)
  | mnemonic (problem : Mnemonic.Problem)
  deriving DecidableEq, Repr

def minLength : Nat := 16

def maxLength : Nat := 64

def Problem.toError : Problem → SyncError
  | empty => .emptySeed
  | hexLength count =>
    .invalidSeed s!"hex seed must be between {minLength} and {maxLength} bytes, got {count}"
  | mnemonic problem => .invalidSeed problem.message

/-- The lower case of the characters whose lower case is ASCII: the Latin capitals and the Kelvin
sign. No other character can be part of a word of the list, whatever its case. -/
def lower (c : Char) : Char :=
  if 65 ≤ c.toNat ∧ c.toNat ≤ 90 then Char.ofNat (c.toNat + 32)
  else if c.toNat = 0x212a then 'k'
  else c

/-- Reads a trimmed text that is not empty. What has the form of hexadecimal bytes is not tried as
a mnemonic. -/
def ofTrimmed (s : List Char) : Except Problem Bytes :=
  match Bytes.ofHex? s with
  | some bytes =>
    if minLength ≤ bytes.length ∧ bytes.length ≤ maxLength then .ok bytes
    else .error (.hexLength bytes.length)
  | none =>
    match Mnemonic.decode ((Text.words s).map (·.map lower)) with
    | .ok entropy => .ok entropy
    | .error problem => .error (.mnemonic problem)

/-- The bytes of a seed; of a mnemonic these are its entropy. -/
def decode (input : String) : Except Problem Bytes :=
  let s := Text.trim input.toList
  if s.isEmpty then .error .empty else ofTrimmed s

end ChainFollower.Seed

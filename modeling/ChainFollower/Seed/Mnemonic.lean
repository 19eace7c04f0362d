import ChainFollower.Seed.Bits
import ChainFollower.Seed.English
import ChainFollower.Seed.Sha256

/-!
Mnemonics of BIP39: entropy of 16, 20, 24, 28 or 32 bytes, followed by one bit of its hash for
every 32 bits, in words of eleven bits each.
-/

namespace ChainFollower.Seed.Mnemonic

inductive Problem where
  | wordCount (count : Nat)
  /-- The position of the first word that is not in the list. -/
  | unknownWord (index : Nat)
  | checksum
  deriving DecidableEq, Repr

def Problem.message : Problem → String
  | wordCount count =>
    s!"mnemonic has an invalid word count: {count}. Word count must be 12, 15, 18, 21, or 24"
  | unknownWord index => s!"mnemonic contains an unknown word (word {index})"
  | checksum => "the mnemonic has an invalid checksum"

def allowedCount (count : Nat) : Bool :=
  count % 3 == 0 && 12 ≤ count && count ≤ 24

def checksum (entropy : Bytes) : List Bool :=
  (Bits.ofBytes (Sha256.hash entropy)).take (entropy.length / 4)

/-- The positions of the words in the list, or that of the first unknown one in the text. -/
def indices : Nat → List (List Char) → Except Problem (List Nat)
  | _, [] => .ok []
  | position, word :: rest =>
    match English.index? word with
    | none => .error (.unknownWord position)
    | some index => (indices (position + 1) rest).map (index :: ·)

/-- The entropy in the bits of a mnemonic, if the bits behind it are its checksum. -/
def ofBits (bits : List Bool) : Except Problem Bytes :=
  let size := bits.length / 33 * 32
  let entropy := Bits.toBytes (bits.take size)
  if checksum entropy = bits.drop size then .ok entropy else .error .checksum

/-- The entropy of a mnemonic. The first word decides whether this is English at all, before the
words are counted. -/
def decode (words : List (List Char)) : Except Problem Bytes :=
  match words with
  | [] => .error (.wordCount 0)
  | first :: _ =>
    if (English.index? first).isNone then .error (.unknownWord 0)
    else if !allowedCount words.length then .error (.wordCount words.length)
    else
      match indices 0 words with
      | .error e => .error e
      | .ok found => ofBits (found.flatMap (Bits.ofNat 11))

def encode (entropy : Bytes) : List String :=
  let bits := Bits.ofBytes entropy ++ checksum entropy
  (Bits.pieces 11 (bits.length / 11) bits).map
    (fun piece => English.words.getD (Bits.toNat piece) "")

end ChainFollower.Seed.Mnemonic

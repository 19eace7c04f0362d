import ChainFollower.Text.Hex

/-!
Numbers as lists of bits, the highest first.
-/

namespace ChainFollower.Bits

/-- The last `width` bits of `n`. -/
def ofNat : Nat → Nat → List Bool
  | 0, _ => []
  | width + 1, n => ofNat width (n / 2) ++ [n % 2 == 1]

def toNat (bits : List Bool) : Nat :=
  bits.foldl (fun n bit => 2 * n + bit.toNat) 0

/-- The first `count` pieces of `size` elements each. -/
def pieces {α : Type} (size : Nat) : Nat → List α → List (List α)
  | 0, _ => []
  | count + 1, bits => bits.take size :: pieces size count (bits.drop size)

def ofBytes (bytes : Bytes) : List Bool :=
  bytes.flatMap (fun b => ofNat 8 b.toNat)

/-- The bytes of a list of bits; bits that fill no byte are left out. -/
def toBytes (bits : List Bool) : Bytes :=
  (pieces 8 (bits.length / 8) bits).map (fun piece => UInt8.ofNat (toNat piece))

end ChainFollower.Bits

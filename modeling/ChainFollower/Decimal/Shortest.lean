/-!
The fewest decimal digits that read back as a given double. A positive double is `m * 2 ^ q`; all
reals nearer to it than to its neighbours read back as it, the two ends of that interval included
iff `m` is even. The digits are found in exact arithmetic.
-/

namespace ChainFollower.Decimal

/-- `digits * 10 ^ exponent`. -/
structure Scientific where
  digits : Nat
  exponent : Int
  deriving DecidableEq, Repr

/-- The least significand of a normal double, `2 ^ 52`. -/
def unit : Nat := 4503599627370496

/-- Significand and exponent of a positive finite double, from its bits without the sign. -/
def decode (bits : Nat) : Nat × Int :=
  let field : Nat := bits / unit % 2048
  let rest : Nat := bits % unit
  if field = 0 then (rest, -1074) else (unit + rest, (field : Int) - 1075)

/-- Four times `m * 2 ^ q` and the ends of its interval, as multiples of one power of two. -/
def interval (m : Nat) (q : Int) : Nat × Nat × Nat :=
  if m = unit ∧ q > -1074 then (4 * m - 1, 4 * m, 4 * m + 2)
  else (4 * m - 2, 4 * m, 4 * m + 2)

/-- The number of zeros between the point and the first digit of `a / b`, which is below one;
`fuel` bounds the search. -/
def leadingZeros : Nat → Nat → Nat → Nat
  | 0, _, _ => 0
  | fuel + 1, a, b => if b ≤ 10 * a then 0 else 1 + leadingZeros fuel (10 * a) b

/-- The power of ten of the first digit of `a / b`. -/
def magnitude (a b : Nat) : Int :=
  if b ≤ a then ((Nat.toDigits 10 (a / b)).length : Int) - 1
  else -1 - (leadingZeros 400 a b : Int)

def fraction (n : Nat) (q : Int) : Nat × Nat :=
  (n * Nat.pow 2 q.toNat, Nat.pow 2 (-q).toNat)

/-- The point of the grid of `10 ^ k` that lies in the interval and is nearest to the value; of
two equally near ones the even one. -/
def hit? (m : Nat) (q k : Int) : Option Nat :=
  let (low, value, high) := interval m q
  let scale (n : Nat) : Nat × Nat :=
    let f := fraction n (q - 2)
    (f.1 * Nat.pow 10 (-k).toNat, f.2 * Nat.pow 10 k.toNat)
  let (num, den) := scale value
  let below := num / den
  let inside (d : Nat) : Bool :=
    let l := scale low
    let h := scale high
    if m % 2 = 0 then l.1 ≤ d * l.2 && d * h.2 ≤ h.1 else l.1 < d * l.2 && d * h.2 < h.1
  match inside below, inside (below + 1) with
  | true, true =>
    let rest := 2 * (num % den)
    if rest < den ∨ (rest = den ∧ below % 2 = 0) then some below else some (below + 1)
  | true, false => some below
  | false, true => some (below + 1)
  | false, false => none

/-- Tries grids with more and more digits; seventeen always do. -/
def search (m : Nat) (q top : Int) : Nat → Nat → Scientific
  | 0, _ => ⟨m, 0⟩
  | fuel + 1, count =>
    let k := top - (count : Int) + 1
    match hit? m q k with
    | some d => ⟨d, k⟩
    | none => search m q top fuel (count + 1)

/-- The shortest decimal of `m * 2 ^ q`, for a positive `m`. -/
def shortest (m : Nat) (q : Int) : Scientific :=
  let f := fraction m q
  search m q (magnitude f.1 f.2) 17 1

end ChainFollower.Decimal

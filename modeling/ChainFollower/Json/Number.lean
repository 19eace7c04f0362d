import ChainFollower.Decimal.Shortest
import ChainFollower.Text.Number

/-!
Numbers of a JSON text. Whole numbers of 64 bits are kept exact; everything else, a negative zero
too, is a double.
-/

namespace ChainFollower.Json

inductive Number where
  | natural (n : Nat)
  | negative (n : Int)
  | float (x : Float)

/-- The weight of the sign in 64 bits, `2 ^ 63`. -/
def signBit : Nat := 9223372036854775808

namespace Number

/-- Writes a double: the fewest digits that read back, with a point always; positional between
`10 ^ -5` and `10 ^ 16`, else one digit before the point and a signed exponent. -/
def floatText (x : Float) : String :=
  let bits := x.toBits.toNat
  let sign := if signBit ≤ bits then ['-'] else []
  let magnitude := bits % signBit
  let body : List Char :=
    if magnitude = 0 then ['0', '.', '0']
    else
      let pair := Decimal.decode magnitude
      let s := Decimal.shortest pair.1 pair.2
      let digits := ((Text.decimal s.digits).reverse.dropWhile (· == '0')).reverse
      let count := (Text.decimal s.digits).length
      let point : Int := s.exponent + count
      if -5 < point ∧ point ≤ 0 then
        ['0', '.'] ++ List.replicate (-point).toNat '0' ++ digits
      else if 0 < point ∧ point ≤ 16 then
        let whole := point.toNat
        let front := digits.take whole ++ List.replicate (whole - digits.length) '0'
        let back := digits.drop whole
        front ++ '.' :: (if back.isEmpty then ['0'] else back)
      else
        let power := point - 1
        let mark := if power < 0 then '-' else '+'
        let text := Text.decimal power.natAbs
        match digits with
        | [] => []
        | [d] => d :: 'e' :: mark :: text
        | d :: rest => d :: '.' :: rest ++ 'e' :: mark :: text
  String.ofList (sign ++ body)

end Number

end ChainFollower.Json

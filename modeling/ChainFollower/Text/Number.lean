/-!
Whole numbers in text. Digits are ASCII; a number that is read may have any number of leading
zeros, one that is written has none.
-/

namespace ChainFollower.Text

def isDigit (c : Char) : Bool :=
  48 ≤ c.toNat && c.toNat ≤ 57

/-- The value of a hexadecimal digit of either case. -/
def hexValue? (c : Char) : Option Nat :=
  let n := c.toNat
  if 48 ≤ n ∧ n ≤ 57 then some (n - 48)
  else if 97 ≤ n ∧ n ≤ 102 then some (n - 87)
  else if 65 ≤ n ∧ n ≤ 70 then some (n - 55)
  else none

def isHexDigit (c : Char) : Bool :=
  (hexValue? c).isSome

def decimal (n : Nat) : List Char :=
  Nat.toDigits 10 n

def hexadecimal (n : Nat) : List Char :=
  Nat.toDigits 16 n

def decimalValue (digits : List Char) : Nat :=
  digits.foldl (fun n c => 10 * n + (c.toNat - 48)) 0

def hexadecimalValue (digits : List Char) : Nat :=
  digits.foldl (fun n c => 16 * n + (hexValue? c).getD 0) 0

/-- A text of one digit or more and nothing else, of value at most `most`. -/
def decimal? (most : Nat) (s : List Char) : Option Nat :=
  if s.isEmpty || !s.all isDigit then none
  else if decimalValue s ≤ most then some (decimalValue s)
  else none

/-- As `decimal?`, with an optional plus sign in front. -/
def signedDecimal? (most : Nat) : List Char → Option Nat
  | '+' :: digits => decimal? most digits
  | digits => decimal? most digits

end ChainFollower.Text

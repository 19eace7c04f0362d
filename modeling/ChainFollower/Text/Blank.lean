import ChainFollower.Text.Split

/-!
White space as the Unicode property White_Space has it, and the words it separates.
-/

namespace ChainFollower.Text

/-- The characters with the property White_Space. A zero-width space is not one of them. -/
def isBlank (c : Char) : Bool :=
  let n := c.toNat
  (9 ≤ n && n ≤ 13) || n == 0x20 || n == 0x85 || n == 0xa0 || n == 0x1680 ||
    (0x2000 ≤ n && n ≤ 0x200a) || n == 0x2028 || n == 0x2029 || n == 0x202f || n == 0x205f ||
    n == 0x3000

def trimStart (s : List Char) : List Char :=
  s.dropWhile isBlank

def trimEnd (s : List Char) : List Char :=
  (s.reverse.dropWhile isBlank).reverse

/-- The text without the white space at its two ends. -/
def trim (s : List Char) : List Char :=
  trimEnd (trimStart s)

/-- The maximal runs of characters that are not white space. -/
def words (s : List Char) : List (List Char) :=
  (splitWhen isBlank s).filter (fun piece => !piece.isEmpty)

end ChainFollower.Text

import ChainFollower.Text.Number

/-!
IP literals. A reader takes what it can from the front of the text and gives back the rest; the
writers produce the one canonical form of an address.
-/

namespace ChainFollower

structure Ipv4 where
  a : UInt8
  b : UInt8
  c : UInt8
  d : UInt8
  deriving DecidableEq, Repr

structure Ipv6 where
  groups : List UInt16
  eight : groups.length = 8
  deriving DecidableEq

abbrev Reader (α : Type) := List Char → Option (α × List Char)

namespace Reader

def char (c : Char) : Reader Unit
  | x :: rest => if x = c then some ((), rest) else none
  | [] => none

/-- What the reader makes of a text that it takes to the end. -/
def whole {α : Type} (read : Reader α) (s : List Char) : Option α :=
  match read s with
  | some (value, []) => some value
  | _ => none

/-- Takes as many decimal digits as there are, at least one, of value at most `most`. -/
def number (most : Nat) : Reader Nat := fun s =>
  match Text.decimal? most (s.takeWhile Text.isDigit) with
  | some n => some (n, s.dropWhile Text.isDigit)
  | none => none

end Reader

namespace Ipv4

/-- One part of a dotted address: at most three digits, and no zero in front of another digit. -/
def octet : Reader UInt8 := fun s =>
  let digits := s.takeWhile Text.isDigit
  if digits.length > 3 ∨ (digits.length > 1 ∧ digits.head? = some '0') then none
  else
    match Text.decimal? 255 digits with
    | some n => some (UInt8.ofNat n, s.dropWhile Text.isDigit)
    | none => none

def dotted : Reader UInt8 := fun s =>
  match Reader.char '.' s with
  | some (_, rest) => octet rest
  | none => none

def read : Reader Ipv4 := fun s =>
  match octet s with
  | none => none
  | some (a, s) =>
    match dotted s with
    | none => none
    | some (b, s) =>
      match dotted s with
      | none => none
      | some (c, s) =>
        match dotted s with
        | none => none
        | some (d, s) => some (⟨a, b, c, d⟩, s)

def render (ip : Ipv4) : List Char :=
  Text.decimal ip.a.toNat ++ '.' :: Text.decimal ip.b.toNat ++
    '.' :: Text.decimal ip.c.toNat ++ '.' :: Text.decimal ip.d.toNat

/-- The two groups that the address fills inside an IPv6 address. -/
def groups (ip : Ipv4) : List UInt16 :=
  [UInt16.ofNat (256 * ip.a.toNat + ip.b.toNat), UInt16.ofNat (256 * ip.c.toNat + ip.d.toNat)]

def ofGroups (high low : UInt16) : Ipv4 :=
  ⟨UInt8.ofNat (high.toNat / 256), UInt8.ofNat (high.toNat % 256),
    UInt8.ofNat (low.toNat / 256), UInt8.ofNat (low.toNat % 256)⟩

end Ipv4

namespace Ipv6

/-- One to four hexadecimal digits; zeros in front count. -/
def group : Reader UInt16 := fun s =>
  let digits := s.takeWhile Text.isHexDigit
  if digits.isEmpty ∨ digits.length > 4 then none
  else some (UInt16.ofNat (Text.hexadecimalValue digits), s.dropWhile Text.isHexDigit)

/-- The text behind the colon that divides groups; nothing divides the first one. -/
def behindColon (first : Bool) (s : List Char) : Option (List Char) :=
  if first then some s
  else
    match Reader.char ':' s with
    | some (_, rest) => some rest
    | none => none

/-- At most `limit` groups divided by colons. A dotted address counts for two and ends the run;
the flag tells whether one did. -/
def readGroups : Nat → Bool → List Char → List UInt16 × Bool × List Char
  | 0, _, s => ([], false, s)
  | limit + 1, first, s =>
    match behindColon first s with
    | none => ([], false, s)
    | some body =>
      match if limit = 0 then none else Ipv4.read body with
      | some (ip, rest) => (ip.groups, true, rest)
      | none =>
        match group body with
        | none => ([], false, s)
        | some (g, rest) =>
          let more := readGroups limit false rest
          (g :: more.1, more.2.1, more.2.2)

def ofGroups? (groups : List UInt16) : Option Ipv6 :=
  if eight : groups.length = 8 then some ⟨groups, eight⟩ else none

/-- Eight groups, or fewer around one `::` that stands for at least one group of zero. A dotted
address may only end the text. -/
def read : Reader Ipv6 := fun s =>
  let head := readGroups 8 true s
  if head.1.length = 8 then (ofGroups? head.1).map (fun ip => (ip, head.2.2))
  else if head.2.1 then none
  else
    match head.2.2 with
    | ':' :: ':' :: rest =>
      let tail := readGroups (7 - head.1.length) true rest
      let zeros := List.replicate (8 - head.1.length - tail.1.length) 0
      (ofGroups? (head.1 ++ zeros ++ tail.1)).map (fun ip => (ip, tail.2.2))
    | _ => none

/-- Start and length of the longest run of zeros, the first of several equally long ones;
`start` is the position of the list's head. -/
def longestZeros : Nat → List UInt16 → Nat × Nat
  | start, [] => (start, 0)
  | start, g :: rest =>
    let here := ((g :: rest).takeWhile (· == 0)).length
    let later := longestZeros (start + 1) rest
    if later.2 ≤ here then (start, here) else later

def renderGroups : List UInt16 → List Char
  | [] => []
  | [g] => Text.hexadecimal g.toNat
  | g :: rest => Text.hexadecimal g.toNat ++ ':' :: renderGroups rest

/-- An address that carries an IPv4 address is written with its dots; otherwise the longest run
of two zeros or more becomes `::`. -/
def render (ip : Ipv6) : List Char :=
  match ip.groups with
  | [0, 0, 0, 0, 0, 0xffff, high, low] =>
    ':' :: ':' :: 'f' :: 'f' :: 'f' :: 'f' :: ':' :: (Ipv4.ofGroups high low).render
  | groups =>
    let run := longestZeros 0 groups
    if run.2 > 1 then
      renderGroups (groups.take run.1) ++ ':' :: ':' :: renderGroups (groups.drop (run.1 + run.2))
    else renderGroups groups

end Ipv6

end ChainFollower

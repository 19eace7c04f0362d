import ChainFollower.Json.Decode
import ChainFollower.Json.Write
import ChainFollower.Proofs.Hexadecimal

/-!
Strings and numbers in JSON, as the format has them: which texts are skipped, which texts stand for a
string, and that what is written for a string or a whole number is read again.
-/

namespace ChainFollower.Json

open Text (Stops isDigit)

def IsSpaces (s : List Char) : Prop :=
  ∀ c ∈ s, isSpace c = true

theorem isSpaces_nil : IsSpaces [] := by
  simp [IsSpaces]

theorem skipSpace_append {w : List Char} (spaces : IsSpaces w) (s : List Char) :
    skipSpace (w ++ s) = skipSpace s :=
  List.dropWhile_append_of_pos spaces

theorem skipSpace_of_stops {s : List Char} (stops : Stops isSpace s) : skipSpace s = s := by
  cases s with
  | nil => rfl
  | cons c s => simp [skipSpace, stops c rfl]

/-- Space in front of a character that is none. -/
theorem skipSpace_cons {w : List Char} (spaces : IsSpaces w) {c : Char} (solid : isSpace c = false)
    (s : List Char) : skipSpace (w ++ c :: s) = c :: s := by
  rw [skipSpace_append spaces, skipSpace_of_stops (by simpa [Stops] using solid)]

theorem stops_skipSpace (s : List Char) : Stops isSpace (skipSpace s) :=
  (Text.span_iff.mp ⟨rfl, rfl⟩).2.2

@[simp] theorem skipSpace_idem (s : List Char) : skipSpace (skipSpace s) = skipSpace s :=
  skipSpace_of_stops (stops_skipSpace s)

/-! ### Strings -/

def IsHalf (unit : Nat) : Prop :=
  0xd800 ≤ unit ∧ unit ≤ 0xdfff

inductive IsInside : List Char → Prop where
  | nil : IsInside []
  | plain {c : Char} {s : List Char} (quote : c ≠ '"') (backslash : c ≠ '\\')
      (printed : 0x20 ≤ c.toNat) (rest : IsInside s) : IsInside (c :: s)
  | short {e c : Char} {s : List Char} (escape : shortEscape? e = some c) (rest : IsInside s) :
      IsInside ('\\' :: e :: s)
  | unit {a b c d : Char} {n : Nat} {s : List Char} (value : unit? a b c d = some n)
      (rest : IsInside s) : IsInside ('\\' :: 'u' :: a :: b :: c :: d :: s)

inductive Means : List Char → List Char → Prop where
  | nil : Means [] []
  | plain {c : Char} {text s : List Char} (quote : c ≠ '"') (backslash : c ≠ '\\')
      (printed : 0x20 ≤ c.toNat) (rest : Means text s) : Means (c :: text) (c :: s)
  | short {e c : Char} {text s : List Char} (escape : shortEscape? e = some c)
      (rest : Means text s) : Means (c :: text) ('\\' :: e :: s)
  | unit {a b c d : Char} {n : Nat} {text s : List Char} (value : unit? a b c d = some n)
      (whole : ¬ IsHalf n) (rest : Means text s) :
      Means (Char.ofNat n :: text) ('\\' :: 'u' :: a :: b :: c :: d :: s)
  /-- A character behind `U+FFFF` in two units. -/
  | pair {a b c d a' b' c' d' : Char} {high low : Nat} {text s : List Char}
      (first : unit? a b c d = some high) (leads : 0xd800 ≤ high ∧ high ≤ 0xdbff)
      (second : unit? a' b' c' d' = some low) (trails : 0xdc00 ≤ low ∧ low ≤ 0xdfff)
      (rest : Means text s) :
      Means (Char.ofNat (0x10000 + (high - 0xd800) * 1024 + (low - 0xdc00)) :: text)
        ('\\' :: 'u' :: a :: b :: c :: d :: '\\' :: 'u' :: a' :: b' :: c' :: d' :: s)

theorem ne_u_of_shortEscape {e c : Char} (escape : shortEscape? e = some c) : e ≠ 'u' := by
  have none : shortEscape? 'u' = none := by decide
  rintro rfl
  cases none ▸ escape

theorem skipString_inside {s : List Char} (inside : IsInside s) (rest : List Char) :
    skipString (s ++ '"' :: rest) = .ok rest := by
  induction inside with
  | nil =>
    rw [List.nil_append, skipString.eq_def]
    rfl
  | plain quote backslash printed _ ih =>
    rw [List.cons_append, skipString.eq_def]
    simp only [if_neg quote, if_neg backslash, if_neg (Nat.not_lt.mpr printed), ih]
  | short escape _ ih => simp [skipString, escape, ih, ne_u_of_shortEscape escape]
  | unit value _ ih => simp [skipString, value, ih]

theorem unquote_means {text s : List Char} (means : Means text s) (rest : List Char) :
    unquote (s ++ '"' :: rest) = .ok (text, rest) := by
  induction means with
  | nil =>
    rw [List.nil_append, unquote.eq_def]
    rfl
  | plain quote backslash printed _ ih =>
    rw [List.cons_append, unquote.eq_def]
    simp only [if_neg quote, if_neg backslash, if_neg (Nat.not_lt.mpr printed), ih, prepend]
  | short escape _ ih => simp [unquote, escape, ih, ne_u_of_shortEscape escape, prepend]
  | @unit a b c d n text s value whole _ ih =>
    have trails : ¬ (0xdc00 ≤ n ∧ n ≤ 0xdfff) := by
      unfold IsHalf at whole
      omega
    have leads : n < 0xd800 ∨ 0xdbff < n := by
      unfold IsHalf at whole
      omega
    simp [unquote, value, trails, leads, ih, prepend]
  | @pair a b c d a' b' c' d' high low text s first leads second trails _ ih =>
    have whole : ¬ (0xdc00 ≤ high ∧ high ≤ 0xdfff) := by omega
    have half : ¬ (high < 0xd800 ∨ 0xdbff < high) := by omega
    simp [unquote, first, second, whole, half, trails, ih, prepend]

/-- What is written for a character stands for it. -/
theorem Means.escapeChar {text s : List Char} (means : Means text s) (c : Char) :
    Means (c :: text) (escapeChar c ++ s) := by
  unfold Json.escapeChar
  split_ifs with quote backslash backspace formFeed newline carriageReturn tab control
  · exact .short (by simp [shortEscape?, quote]) means
  · exact .short (by simp [shortEscape?, backslash]) means
  · exact .short (by simp [shortEscape?, backspace]) means
  · exact .short (by simp [shortEscape?, formFeed]) means
  · exact .short (by simp [shortEscape?, newline]) means
  · exact .short (by simp [shortEscape?, carriageReturn]) means
  · exact .short (by simp [shortEscape?, tab]) means
  · have high := Bytes.hexValue?_hexDigit (c.toNat / 16) (by omega)
    have low := Bytes.hexValue?_hexDigit (c.toNat % 16) (by omega)
    have zero : Text.hexValue? '0' = some 0 := by decide
    have value : unit? '0' '0' (Bytes.hexDigit (c.toNat / 16)) (Bytes.hexDigit (c.toNat % 16)) =
        some c.toNat := by
      simp only [unit?, zero, high, low, Option.some.injEq]
      omega
    have written := means.unit value (by unfold IsHalf; omega)
    rwa [Char.ofNat_toNat] at written
  · exact .plain quote backslash (by omega) means

theorem means_escaped (text : List Char) : Means text (text.flatMap escapeChar) := by
  induction text with
  | nil => exact .nil
  | cons c text ih => exact ih.escapeChar c

def Quotes (text : String) (s : List Char) : Prop :=
  ∃ inside, Means text.toList inside ∧ s = '"' :: inside ++ ['"']

theorem quotes_writeString (text : String) : Quotes text (writeString text) :=
  ⟨_, means_escaped text.toList, rfl⟩

theorem readText_quotes {text : String} {s w : List Char} (quotes : Quotes text s)
    (spaces : IsSpaces w) (expected : String) (rest : List Char) :
    readText expected (w ++ (s ++ rest)) = .ok (text, rest) := by
  obtain ⟨inside, means, rfl⟩ := quotes
  have opens : skipSpace (w ++ ('"' :: inside ++ ['"'] ++ rest)) = '"' :: (inside ++ '"' :: rest) := by
    simpa using skipSpace_cons spaces (c := '"') (by decide) (inside ++ '"' :: rest)
  rw [readText, opens]
  simp [unquote_means means]

/-! ### Numbers -/

def Ends (rest : List Char) : Prop :=
  Stops (fun c => isDigit c || c == '.' || c == 'e' || c == 'E') rest

theorem ends_nil : Ends [] := by
  simp [Ends, Stops]

theorem Ends.stops {rest : List Char} (ends : Ends rest) : Stops isDigit rest := by
  intro c first
  have other := ends c first
  simp only [Bool.or_eq_false_iff] at other
  exact other.1.1.1

theorem Ends.head? {rest : List Char} (ends : Ends rest) :
    rest.head? ≠ some '.' ∧ rest.head? ≠ some 'e' ∧ rest.head? ≠ some 'E' := by
  refine ⟨fun first => ?_, fun first => ?_, fun first => ?_⟩ <;>
    exact absurd (ends _ first) (by decide)

def IsDigits (s : List Char) : Prop :=
  s ≠ [] ∧ ∀ c ∈ s, isDigit c = true

/-- The part of a number before its point: a zero, or digits of which the first one is none. -/
def IsWhole (s : List Char) : Prop :=
  s = ['0'] ∨ IsDigits s ∧ s.head? ≠ some '0'

def IsFraction (s : List Char) : Prop :=
  s = [] ∨ ∃ digits, IsDigits digits ∧ s = '.' :: digits

def IsExponent (s : List Char) : Prop :=
  s = [] ∨ ∃ letter sign digits, (letter = 'e' ∨ letter = 'E') ∧
    (sign = [] ∨ sign = ['+'] ∨ sign = ['-']) ∧ IsDigits digits ∧ s = letter :: (sign ++ digits)

def IsUnsigned (s : List Char) : Prop :=
  ∃ whole fraction exponent, IsWhole whole ∧ IsFraction fraction ∧ IsExponent exponent ∧
    s = whole ++ (fraction ++ exponent)

def IsNumber (s : List Char) : Prop :=
  IsUnsigned s ∨ ∃ unsigned, IsUnsigned unsigned ∧ s = '-' :: unsigned

theorem ne_of_isDigit {c other : Char} (digit : isDigit c = true) (none : isDigit other = false) :
    c ≠ other := by
  rintro rfl
  rw [digit] at none
  cases none

theorem dropDigits_append {digits rest : List Char} (all : ∀ c ∈ digits, isDigit c = true)
    (stops : Stops isDigit rest) : dropDigits (digits ++ rest) = rest :=
  (Text.span_iff.mpr ⟨rfl, all, stops⟩).2

/-- Behind its first digit a run of digits is dropped. -/
theorem IsDigits.exists_cons {s : List Char} (digits : IsDigits s) : ∃ d ds, s = d :: ds ∧
    isDigit d = true ∧ ∀ rest, Stops isDigit rest → dropDigits (ds ++ rest) = rest := by
  obtain ⟨some, all⟩ := digits
  cases s with
  | nil => exact absurd rfl some
  | cons d ds =>
    refine ⟨d, ds, rfl, all d (by simp), fun rest stops => ?_⟩
    exact dropDigits_append (fun c among => all c (by simp [among])) stops

theorem skipExponent_append {sign digits rest : List Char}
    (signed : sign = [] ∨ sign = ['+'] ∨ sign = ['-']) (number : IsDigits digits)
    (stops : Stops isDigit rest) : skipExponent (sign ++ digits ++ rest) = .ok rest := by
  obtain ⟨d, ds, rfl, digit, dropped⟩ := number.exists_cons
  have plus : d ≠ '+' := ne_of_isDigit digit (by decide)
  have minus : d ≠ '-' := ne_of_isDigit digit (by decide)
  rcases signed with rfl | rfl | rfl <;> simp [skipExponent, digit, dropped rest stops, plus, minus]

theorem IsExponent.stops {exponent rest : List Char} (power : IsExponent exponent) (ends : Ends rest) :
    Stops isDigit (exponent ++ rest) := by
  rcases power with rfl | ⟨letter, sign, digits, rfl | rfl, -, -, rfl⟩
  · exact ends.stops
  · simp [Stops, isDigit]
  · simp [Stops, isDigit]

theorem IsFraction.stops {fraction rest : List Char} (decimals : IsFraction fraction)
    (stops : Stops isDigit rest) : Stops isDigit (fraction ++ rest) := by
  rcases decimals with rfl | ⟨digits, -, rfl⟩
  · exact stops
  · simp [Stops, isDigit]

theorem skipFraction_append {fraction exponent rest : List Char} (decimals : IsFraction fraction)
    (power : IsExponent exponent) (ends : Ends rest) :
    skipFraction (fraction ++ exponent ++ rest) = .ok rest := by
  have stops := power.stops ends
  have noPoint := ends.head?
  rcases decimals with rfl | ⟨digits, number, rfl⟩
  · rcases power with rfl | ⟨letter, sign, digits, rfl | rfl, signed, number, rfl⟩
    · unfold skipFraction
      split <;> simp_all
    · simpa [skipFraction] using skipExponent_append signed number ends.stops
    · simpa [skipFraction] using skipExponent_append signed number ends.stops
  · obtain ⟨d, ds, rfl, digit, dropped⟩ := number.exists_cons
    simp only [List.cons_append, List.append_assoc, skipFraction, digit, if_true, dropped _ stops]
    rcases power with rfl | ⟨letter, sign, digits, rfl | rfl, signed, number, rfl⟩
    · split <;> simp_all
    · simpa using skipExponent_append signed number ends.stops
    · simpa using skipExponent_append signed number ends.stops

theorem skipNumber_append {s rest : List Char} (unsigned : IsUnsigned s) (ends : Ends rest) :
    skipNumber (s ++ rest) = .ok rest := by
  obtain ⟨whole, fraction, exponent, natural, decimals, power, rfl⟩ := unsigned
  have behind := skipFraction_append decimals power ends
  have stops := decimals.stops (power.stops ends)
  rw [List.append_assoc] at behind
  simp only [List.append_assoc]
  rcases natural with rfl | ⟨number, first⟩
  · generalize fraction ++ (exponent ++ rest) = following at behind stops
    cases following with
    | nil => exact behind
    | cons d ds =>
      have other : isDigit d = false := stops d rfl
      simp [skipNumber, other, behind]
  · obtain ⟨d, ds, rfl, digit, dropped⟩ := number.exists_cons
    have zero : d ≠ '0' := by simpa using first
    simp [skipNumber, zero, digit, dropped _ stops, behind]

/-! ### Whole numbers -/

theorem le_decimalValue (digits : List Char) (n : Nat) :
    n ≤ digits.foldl (fun n c => 10 * n + (c.toNat - 48)) n := by
  induction digits generalizing n with
  | nil => simp
  | cons c digits ih =>
    have more := ih (10 * n + (c.toNat - 48))
    simp only [List.foldl_cons]
    omega

theorem absorb_eq {digits : List Char} {n : Nat}
    (small : digits.foldl (fun n c => 10 * n + (c.toNat - 48)) n ≤ maxSignificand) :
    absorb n digits = (digits.foldl (fun n c => 10 * n + (c.toNat - 48)) n, []) := by
  induction digits generalizing n with
  | nil => rfl
  | cons c digits ih =>
    have next := (le_decimalValue digits _).trans small
    rw [absorb, if_pos next, ih small]
    rfl

theorem readUnsigned_decimal (positive : Bool) {n : Nat} (small : n ≤ maxSignificand)
    {rest : List Char} (ends : Ends rest) :
    readUnsigned positive (Text.decimal n ++ rest) = .ok (wholeNumber positive n, rest) := by
  obtain ⟨some, all, worth⟩ := Text.spells_ten.mp (Text.spells_decimal n)
  have taken : (Text.decimal n ++ rest).takeWhile isDigit = Text.decimal n :=
    (Text.span_iff.mpr ⟨rfl, all, ends.stops⟩).1
  have absorbed : absorb 0 (Text.decimal n) = (n, []) := by
    rw [absorb_eq (worth.trans_le small)]
    exact congrArg (·, []) worth
  obtain ⟨point, exponent⟩ := ends.head?
  simp only [readUnsigned, taken, dropDigits_append all ends.stops]
  split
  · exact absurd ‹_› some
  · exact absurd ‹_› some
  · rename_i written
    exact absurd written (Text.decimal_ne_zero_cons (by simp))
  · rw [absorbed]
    split
    · simp at point
    · simp [exponent]

theorem writeInteger_starts (n : Int) :
    ∃ c s, writeInteger n = c :: s ∧ (c = '-' ∨ isDigit c = true) := by
  unfold writeInteger
  split
  · exact ⟨'-', _, rfl, .inl rfl⟩
  · obtain ⟨some, all, -⟩ := Text.spells_ten.mp (Text.spells_decimal n.natAbs)
    cases written : Text.decimal n.natAbs with
    | nil => exact absurd written some
    | cons c s => exact ⟨c, s, rfl, .inr (all c (by simp [written]))⟩

theorem solid_of_starts {c : Char} (starts : c = '-' ∨ isDigit c = true) : isSpace c = false := by
  cases space : isSpace c with
  | false => rfl
  | true =>
    simp only [isSpace, Bool.or_eq_true, beq_iff_eq] at space
    rcases space with ((rfl | rfl) | rfl) | rfl <;> revert starts <;> decide

theorem readNumber_writeInteger {n : Int} (least : -signBit ≤ n) (most : n ≤ maxSignificand)
    {rest : List Char} (ends : Ends rest) : readNumber (writeInteger n ++ rest) =
      .ok (if n < 0 then .negative n else .natural n.toNat, rest) := by
  unfold writeInteger
  split
  · rename_i negative
    have small : n.natAbs ≤ signBit := by omega
    have bound : signBit ≤ maxSignificand := by decide
    have size : 0 < n.natAbs ∧ n.natAbs ≤ signBit := by omega
    have same : -(n.natAbs : Int) = n := by omega
    rw [List.cons_append, readNumber, readUnsigned_decimal false (small.trans bound) ends,
      wholeNumber, if_neg (by decide), if_pos size, same]
  · have small : n.natAbs ≤ maxSignificand := by omega
    have same : n.natAbs = n.toNat := by omega
    have read := readUnsigned_decimal true small ends
    rw [readNumber, read, wholeNumber, if_pos rfl, same]
    intro others signed
    obtain ⟨some, all, -⟩ := Text.spells_ten.mp (Text.spells_decimal n.natAbs)
    cases written : Text.decimal n.natAbs with
    | nil => exact some written
    | cons c s =>
      rw [written, List.cons_append, List.cons.injEq] at signed
      have digit := all c (by simp [written])
      rw [signed.1] at digit
      cases digit

theorem readInteger_writeInteger {low high n : Int} (least : low ≤ n) (most : n ≤ high)
    (least64 : -signBit ≤ n) (most64 : n ≤ maxSignificand) {w rest : List Char} (spaces : IsSpaces w)
    (ends : Ends rest) (expected : String) :
    readInteger low high expected (w ++ (writeInteger n ++ rest)) = .ok (n, rest) := by
  obtain ⟨c, s, written, starts⟩ := writeInteger_starts n
  have solid : isSpace c = false := solid_of_starts starts
  have here : skipSpace (w ++ (writeInteger n ++ rest)) = writeInteger n ++ rest := by
    simpa [written] using skipSpace_cons spaces solid (s ++ rest)
  have read := readNumber_writeInteger least64 most64 ends
  rw [readInteger, here]
  simp only [written, List.cons_append, if_pos starts] at read ⊢
  rw [read]
  by_cases negative : n < 0
  · simp [negative, least, most]
  · have same : (n.toNat : Int) = n := by omega
    simp [negative, same, least, most]

theorem readInteger_writeNatural {high : Int} {n : Nat} (most : n ≤ high) (most64 : n ≤ maxSignificand)
    {w rest : List Char} (spaces : IsSpaces w) (ends : Ends rest) (expected : String) :
    readInteger 0 high expected (w ++ (writeNatural n ++ rest)) = .ok (n, rest) := by
  have written : writeInteger n = writeNatural n := by
    simp [writeInteger, writeNatural]
  rw [← written]
  exact readInteger_writeInteger (by omega) most (by simp only [signBit]; omega) (by omega) spaces ends
    expected

end ChainFollower.Json

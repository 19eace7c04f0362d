import Mathlib.Algebra.Group.Nat.Defs
import Mathlib.Data.List.Induction
import Mathlib.Data.List.TakeWhile
import Mathlib.Tactic.SplitIfs
import ChainFollower.Network.Endpoint

/-!
Whole numbers in text, as writing them has it: any zeros, and then the digits that writing the number
gives. The readers of numbers take that and nothing else.
-/

namespace ChainFollower

namespace Text

/-- The text is the number in that base: zeros in front count, and so do digits of either case. -/
def Spells (base n : Nat) (s : List Char) : Prop :=
  ∃ zeros, s.map Char.toLower = List.replicate zeros '0' ++ Nat.toDigits base n

def Digits (base : Nat) (digit : Char → Bool) (value : Char → Nat) : Prop :=
  ∀ c d, digit c = true ∧ value c = d ↔ d < base ∧ c.toLower = Nat.digitChar d

theorem toNat_toLower (c : Char) :
    c.toLower.toNat = if 65 ≤ c.toNat ∧ c.toNat ≤ 90 then c.toNat + 32 else c.toNat := by
  delta Char.toLower
  split
  · rename_i upper
    have range : 65 ≤ c.toNat ∧ c.toNat ≤ 90 := by
      simpa [UInt32.le_iff_toNat_le] using upper
    have shift : ('a'.val - 'A'.val).toNat = 32 := by decide
    rw [if_pos range]
    change (c.val + ('a'.val - 'A'.val)).toNat = c.val.toNat + 32
    have small : c.val.toNat ≤ 90 := range.2
    rw [UInt32.toNat_add, shift]
    omega
  · rename_i other
    have range : ¬ (65 ≤ c.toNat ∧ c.toNat ≤ 90) := by
      simpa [UInt32.le_iff_toNat_le] using other
    rw [if_neg range]

theorem toNat_digitChar {d : Nat} (small : d < 16) :
    (Nat.digitChar d).toNat = if d < 10 then 48 + d else 87 + d := by
  revert d
  decide

theorem toLower_eq_digitChar {c : Char} {d : Nat} (small : d < 16) :
    c.toLower = Nat.digitChar d ↔
      (if 65 ≤ c.toNat ∧ c.toNat ≤ 90 then c.toNat + 32 else c.toNat) =
        if d < 10 then 48 + d else 87 + d := by
  rw [← Char.toNat_inj, toNat_toLower, toNat_digitChar small]

theorem decimal_digits : Digits 10 isDigit (fun c => c.toNat - 48) := by
  intro c d
  simp only [isDigit, Bool.and_eq_true, decide_eq_true_eq]
  constructor
  · rintro ⟨digit, rfl⟩
    have small : c.toNat - 48 < 10 := by omega
    refine ⟨small, (toLower_eq_digitChar (by omega)).mpr ?_⟩
    rw [if_pos small, if_neg (by omega)]
    omega
  · rintro ⟨small, lower⟩
    have codes := (toLower_eq_digitChar (by omega)).mp lower
    rw [if_pos small] at codes
    split at codes <;> omega

theorem hexValue?_eq_some {c : Char} {d : Nat} :
    hexValue? c = some d ↔ d < 16 ∧ c.toLower = Nat.digitChar d := by
  simp only [hexValue?]
  constructor
  · intro value
    have small : d < 16 := by
      split_ifs at value <;> cases value <;> omega
    refine ⟨small, (toLower_eq_digitChar small).mpr ?_⟩
    split_ifs at value ⊢ <;> cases value <;> omega
  · rintro ⟨small, lower⟩
    have codes := (toLower_eq_digitChar small).mp lower
    grind

theorem isHexDigit_of_isDigit {c : Char} (digit : isDigit c = true) : isHexDigit c = true := by
  simp only [isDigit, Bool.and_eq_true, decide_eq_true_eq] at digit
  simp [isHexDigit, hexValue?, digit]

theorem hexadecimal_digits : Digits 16 isHexDigit (fun c => (hexValue? c).getD 0) := by
  intro c d
  rw [← hexValue?_eq_some, isHexDigit]
  cases known : hexValue? c with
  | none => simp
  | some value => simp [known]

section Digits

variable {base : Nat} {digit : Char → Bool} {value : Char → Nat}

/-- Reading digits one after the other undoes writing them. -/
theorem Digits.of_toDigits (digits : Digits base digit value) (several : 1 < base) (n : Nat)
    {s : List Char} (spelled : s.map Char.toLower = Nat.toDigits base n) :
    (∀ c ∈ s, digit c = true) ∧ s.foldl (fun m c => base * m + value c) 0 = n := by
  induction n using Nat.strongRecOn generalizing s with
  | ind n ih =>
    by_cases small : n < base
    · rw [Nat.toDigits_of_lt_base small] at spelled
      obtain ⟨c, rfl, lower⟩ := List.map_eq_singleton_iff.mp spelled
      have last := (digits c n).mpr ⟨small, lower⟩
      simp [last]
    · rw [Nat.toDigits_of_base_le several (by omega)] at spelled
      obtain ⟨front, back, rfl, fronted, backed⟩ := List.map_eq_append_iff.mp spelled
      obtain ⟨c, rfl, lower⟩ := List.map_eq_singleton_iff.mp backed
      have last := (digits c (n % base)).mpr ⟨Nat.mod_lt n (by omega), lower⟩
      obtain ⟨all, worth⟩ := ih (n / base) (Nat.div_lt_self (by omega) several) fronted
      constructor
      · intro d hd
        rcases List.mem_append.mp hd with inFront | inBack
        · exact all d inFront
        · exact List.mem_singleton.mp inBack ▸ last.1
      · rw [List.foldl_append, worth]
        simp only [List.foldl_cons, List.foldl_nil, last.2]
        exact Nat.div_add_mod n base

theorem Digits.of_zeros (digits : Digits base digit value) (several : 1 < base) {zeros : Nat}
    {s : List Char} (spelled : s.map Char.toLower = List.replicate zeros '0') :
    (∀ c ∈ s, digit c = true) ∧ s.foldl (fun m c => base * m + value c) 0 = 0 := by
  have zero : ∀ c ∈ s, digit c = true ∧ value c = 0 := by
    intro c hc
    have lower : c.toLower ∈ List.replicate zeros '0' := spelled ▸ List.mem_map_of_mem hc
    exact (digits c 0).mpr ⟨by omega, (List.mem_replicate.mp lower).2⟩
  refine ⟨fun c hc => (zero c hc).1, ?_⟩
  clear spelled
  induction s with
  | nil => rfl
  | cons c s ih =>
    simp only [List.foldl_cons, zero c (by simp), Nat.mul_zero, Nat.add_zero]
    exact ih (fun d hd => zero d (by simp [hd]))

/-- Writing what digits are worth gives them back, but for zeros in front. -/
theorem map_digitChar (several : 1 < base) {ds : List Nat} (some : ds ≠ [])
    (small : ∀ d ∈ ds, d < base) :
    ∃ zeros, ds.map Nat.digitChar =
      List.replicate zeros '0' ++ Nat.toDigits base (ds.foldl (fun n d => base * n + d) 0) := by
  induction ds using List.reverseRecOn with
  | nil => exact absurd rfl some
  | append_singleton front d ih =>
    have smallest : d < base := small d (by simp)
    rw [List.map_append, List.map_singleton, List.foldl_append]
    simp only [List.foldl_cons, List.foldl_nil]
    by_cases only : front = []
    · exact ⟨0, by simp [only, Nat.toDigits_of_lt_base smallest]⟩
    · obtain ⟨zeros, ih⟩ := ih only (fun e he => small e (by simp [he]))
      rw [ih]
      rcases Nat.eq_zero_or_pos (front.foldl (fun n d => base * n + d) 0) with zero | positive
      · -- All digits before this one are zeros, the one that stands for their value included.
        refine ⟨zeros + 1, ?_⟩
        simp [zero, Nat.toDigits_of_lt_base smallest, List.replicate_succ', List.append_assoc]
      · refine ⟨zeros, ?_⟩
        rw [List.append_assoc, ← Nat.toDigits_append_toDigits several positive smallest,
          Nat.toDigits_of_lt_base smallest]

/-- A text spells a number if it is one digit or more that are worth the number. -/
theorem Digits.spells_iff (digits : Digits base digit value) (several : 1 < base) {n : Nat}
    {s : List Char} :
    Spells base n s ↔
      s ≠ [] ∧ (∀ c ∈ s, digit c = true) ∧ s.foldl (fun m c => base * m + value c) 0 = n := by
  constructor
  · rintro ⟨zeros, spelled⟩
    obtain ⟨front, back, rfl, fronted, backed⟩ := List.map_eq_append_iff.mp spelled
    obtain ⟨frontAll, frontWorth⟩ := digits.of_zeros several fronted
    obtain ⟨backAll, backWorth⟩ := digits.of_toDigits several n backed
    refine ⟨?_, ?_, ?_⟩
    · intro empty
      rw [(List.append_eq_nil_iff.mp empty).2] at backed
      exact Nat.toDigits_ne_nil backed.symm
    · intro c hc
      exact (List.mem_append.mp hc).elim (frontAll c) (backAll c)
    · rw [List.foldl_append, frontWorth, backWorth]
  · rintro ⟨some, all, rfl⟩
    have small : ∀ d ∈ s.map value, d < base := by
      intro d hd
      obtain ⟨c, hc, rfl⟩ := List.mem_map.mp hd
      exact ((digits c _).mp ⟨all c hc, rfl⟩).1
    obtain ⟨zeros, written⟩ := map_digitChar several (by simpa using some) small
    refine ⟨zeros, ?_⟩
    rw [List.foldl_map] at written
    rw [← written, List.map_map]
    exact List.map_congr_left fun c hc => ((digits c _).mp ⟨all c hc, rfl⟩).2

end Digits

theorem spells_ten {n : Nat} {s : List Char} :
    Spells 10 n s ↔ s ≠ [] ∧ (∀ c ∈ s, isDigit c = true) ∧ decimalValue s = n :=
  decimal_digits.spells_iff (by omega)

theorem spells_sixteen {n : Nat} {s : List Char} :
    Spells 16 n s ↔ s ≠ [] ∧ (∀ c ∈ s, isHexDigit c = true) ∧ hexadecimalValue s = n :=
  hexadecimal_digits.spells_iff (by omega)

theorem decimal?_eq_some {most n : Nat} {s : List Char} :
    decimal? most s = some n ↔ Spells 10 n s ∧ n ≤ most := by
  rw [spells_ten]
  simp only [decimal?]
  split
  · rename_i other
    simp only [Bool.or_eq_true, List.isEmpty_iff, Bool.not_eq_true', List.all_eq_false] at other
    grind
  · rename_i digits
    simp only [Bool.or_eq_true, List.isEmpty_iff, Bool.not_eq_true', List.all_eq_false] at digits
    grind

theorem signedDecimal?_eq_some {most n : Nat} {s : List Char} :
    signedDecimal? most s = some n ↔
      ∃ digits, (s = digits ∨ s = '+' :: digits) ∧ Spells 10 n digits ∧ n ≤ most := by
  have plus : ∀ digits, ¬ Spells 10 n ('+' :: digits) := by
    intro digits spells
    have digit := (spells_ten.mp spells).2.1 '+' (by simp)
    exact absurd digit (by decide)
  cases s using signedDecimal?.fun_cases with
  | case1 digits =>
    rw [signedDecimal?, decimal?_eq_some]
    constructor
    · intro spells
      exact ⟨digits, .inr rfl, spells⟩
    · rintro ⟨digits', rfl | same, spells⟩
      · exact absurd spells.1 (plus digits)
      · cases same
        exact spells
  | case2 s unsigned =>
    rw [signedDecimal?, decimal?_eq_some]
    · constructor
      · intro spells
        exact ⟨s, .inl rfl, spells⟩
      · rintro ⟨digits, rfl | rfl, spells⟩
        · exact spells
        · exact absurd rfl (unsigned digits)
    · exact unsigned

theorem map_toLower_toDigits {base : Nat} (several : 1 < base) (few : base ≤ 16) (n : Nat) :
    (Nat.toDigits base n).map Char.toLower = Nat.toDigits base n := by
  have lower : ∀ d < 16, (Nat.digitChar d).toLower = Nat.digitChar d := by decide
  induction n using Nat.strongRecOn with
  | ind n ih =>
    by_cases small : n < base
    · simp [Nat.toDigits_of_lt_base small, lower n (by omega)]
    · have last : n % base < 16 := (Nat.mod_lt n (by omega)).trans_le few
      rw [Nat.toDigits_of_base_le several (by omega), List.map_append,
        ih _ (Nat.div_lt_self (by omega) several)]
      simp [lower _ last]

theorem spells_decimal (n : Nat) : Spells 10 n (decimal n) :=
  ⟨0, map_toLower_toDigits (by omega) (by omega) n⟩

theorem spells_hexadecimal (n : Nat) : Spells 16 n (hexadecimal n) :=
  ⟨0, map_toLower_toDigits (by omega) (by omega) n⟩

theorem Spells.lt_pow {base n : Nat} {s : List Char} (spells : Spells base n s)
    (several : 1 < base) : n < base ^ s.length := by
  obtain ⟨zeros, spelled⟩ := spells
  have long := congrArg List.length spelled
  have some : 0 < (Nat.toDigits base n).length := List.length_pos_iff.mpr Nat.toDigits_ne_nil
  simp only [List.length_map, List.length_append, List.length_replicate] at long
  exact (Nat.length_toDigits_le_iff several (by omega)).mp (by omega)

/-- Decimal digits have one case, so that the zeros in front are all that writing leaves open. -/
theorem spells_ten_iff {n : Nat} {s : List Char} :
    Spells 10 n s ↔ ∃ zeros, s = List.replicate zeros '0' ++ decimal n := by
  have keeps : ∀ c, isDigit c = true → c.toLower = c := by
    intro c digit
    simp only [isDigit, Bool.and_eq_true, decide_eq_true_eq] at digit
    rw [← Char.toNat_inj, toNat_toLower, if_neg (by omega)]
  constructor
  · rintro ⟨zeros, spelled⟩
    have digits := (spells_ten.mp ⟨zeros, spelled⟩).2.1
    have same : s.map Char.toLower = s :=
      (List.map_congr_left fun c hc => keeps c (digits c hc)).trans (List.map_id s)
    exact ⟨zeros, same ▸ spelled⟩
  · rintro ⟨zeros, rfl⟩
    refine ⟨zeros, ?_⟩
    rw [List.map_append, List.map_replicate, decimal, map_toLower_toDigits (by omega) (by omega)]
    rfl

/-- What is written has no zero in front of another digit. -/
theorem decimal_ne_zero_cons {n : Nat} {rest : List Char} (more : rest ≠ []) :
    decimal n ≠ '0' :: rest := by
  intro written
  obtain ⟨-, digits, worth⟩ := spells_ten.mp (written ▸ spells_decimal n)
  have spells : Spells 10 n rest :=
    spells_ten.mpr ⟨more, fun c hc => digits c (List.mem_cons_of_mem _ hc), by
      simpa [decimalValue] using worth⟩
  obtain ⟨zeros, same⟩ := spells_ten_iff.mp spells
  have longer := congrArg List.length same
  simp [written] at longer
  omega

theorem decimal_inj {m n : Nat} (same : decimal m = decimal n) : m = n := by
  have left := (spells_ten.mp (spells_decimal m)).2.2
  have right := (spells_ten.mp (spells_decimal n)).2.2
  rw [same] at left
  exact left.symm.trans right

def Stops (p : Char → Bool) (rest : List Char) : Prop :=
  ∀ c ∈ rest.head?, p c = false

theorem span_iff {p : Char → Bool} {s front rest : List Char} :
    s.takeWhile p = front ∧ s.dropWhile p = rest ↔
      s = front ++ rest ∧ (∀ c ∈ front, p c = true) ∧ Stops p rest := by
  constructor
  · rintro ⟨rfl, rfl⟩
    refine ⟨List.takeWhile_append_dropWhile.symm, fun c hc => List.mem_takeWhile_imp hc, ?_⟩
    intro c first
    have stopped := List.head?_dropWhile_not p s
    rw [Option.mem_def.mp first] at stopped
    exact stopped
  · rintro ⟨rfl, all, stops⟩
    rw [List.takeWhile_append_of_pos all, List.dropWhile_append_of_pos all]
    cases rest with
    | nil => simp
    | cons c rest =>
      have stop : p c = false := stops c rfl
      simp [stop]

theorem Stops.left {p : Char → Bool} {front rest : List Char} (stops : Stops p (front ++ rest)) :
    Stops p front := by
  cases front with
  | nil => simp [Stops]
  | cons c front => exact stops

theorem Stops.ne_digits {p : Char → Bool} {front rest : List Char} (stops : Stops p (front ++ rest))
    (some : front ≠ []) (all : ∀ c ∈ front, p c = true) : False := by
  cases front with
  | nil => exact some rfl
  | cons c front =>
    have stop : p c = false := stops c rfl
    simp [all c] at stop

end Text

theorem Reader.number_eq_some {most n : Nat} {s rest : List Char} :
    Reader.number most s = some (n, rest) ↔
      ∃ digits, s = digits ++ rest ∧ Text.Spells 10 n digits ∧ n ≤ most ∧
        Text.Stops Text.isDigit rest := by
  simp only [Reader.number]
  constructor
  · intro read
    split at read
    · rename_i m value
      cases read
      obtain ⟨cut, -, stops⟩ := Text.span_iff.mp ⟨rfl, rfl⟩
      obtain ⟨spells, small⟩ := Text.decimal?_eq_some.mp value
      exact ⟨_, cut, spells, small, stops⟩
    · cases read
  · rintro ⟨digits, cut, spells, small, stops⟩
    obtain ⟨taken, left⟩ := Text.span_iff.mpr ⟨cut, (Text.spells_ten.mp spells).2.1, stops⟩
    rw [taken, left, Text.decimal?_eq_some.mpr ⟨spells, small⟩]

end ChainFollower

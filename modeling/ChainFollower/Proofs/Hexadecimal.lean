import ChainFollower.Proofs.Numerals
import ChainFollower.Text.Hex

/-!
Bytes in hexadecimal: the reader takes pairs of digits of either case and nothing else, and reads what
is written for some bytes as these.
-/

namespace ChainFollower.Bytes

/-- Two hexadecimal digits of either case for each byte. -/
inductive IsHex : Bytes → List Char → Prop where
  | nil : IsHex [] []
  | cons {b : UInt8} {bytes : Bytes} {high low : Char} {s : List Char}
      (digits : Text.Spells 16 b.toNat [high, low]) (rest : IsHex bytes s) :
      IsHex (b :: bytes) (high :: low :: s)

theorem spells_pair {n : Nat} {high low : Char} :
    Text.Spells 16 n [high, low] ↔
      ∃ h l, Text.hexValue? high = some h ∧ Text.hexValue? low = some l ∧ n = 16 * h + l := by
  rw [Text.spells_sixteen]
  simp only [ne_eq, List.cons_ne_nil, not_false_eq_true, List.forall_mem_cons, List.not_mem_nil,
    Text.isHexDigit, Option.isSome_iff_exists, Text.hexadecimalValue, List.foldl_cons,
    List.foldl_nil]
  constructor
  · rintro ⟨-, ⟨⟨h, high⟩, ⟨l, low⟩, -⟩, rfl⟩
    exact ⟨h, l, high, low, by simp [high, low]⟩
  · rintro ⟨h, l, high, low, rfl⟩
    exact ⟨trivial, ⟨⟨h, high⟩, ⟨l, low⟩, by simp⟩, by simp [high, low]⟩

theorem hexValue?_lt {c : Char} {d : Nat} (value : Text.hexValue? c = some d) : d < 16 :=
  (Text.hexValue?_eq_some.mp value).1

theorem ofHex?_eq_some {s : List Char} {bytes : Bytes} : ofHex? s = some bytes ↔ IsHex bytes s := by
  induction s using ofHex?.induct generalizing bytes with
  | case1 =>
    constructor
    · intro read
      cases read
      exact .nil
    · rintro ⟨⟩
      rfl
  | case2 c =>
    constructor
    · intro read
      cases read
    · rintro ⟨⟩
  | case3 high low s h l others rest second first ih =>
    have small := hexValue?_lt first
    have small' := hexValue?_lt second
    rw [ofHex?, first, second, rest]
    constructor
    · intro read
      cases read
      refine .cons (spells_pair.mpr ⟨h, l, first, second, ?_⟩) (ih.mp rest)
      rw [UInt8.toNat_ofNat', Nat.mod_eq_of_lt (by omega)]
    · rintro (_ | @⟨b, _, _, _, _, digits, others⟩)
      obtain ⟨h', l', first', second', value⟩ := spells_pair.mp digits
      cases first.symm.trans first'
      cases second.symm.trans second'
      cases rest.symm.trans (ih.mpr others)
      dsimp only
      rw [← value, UInt8.ofNat_toNat]
  | case4 high low s unread ih =>
    constructor
    · intro read
      rw [ofHex?] at read
      split at read
      · rename_i first second rest
        exact (unread _ _ _ first second rest).elim
      · cases read
    · rintro (_ | ⟨digits, others⟩)
      obtain ⟨h, l, first, second, -⟩ := spells_pair.mp digits
      exact (unread h l _ first second (ih.mpr others)).elim

theorem IsHex.unique {bytes others : Bytes} {s : List Char} (hex : IsHex bytes s)
    (hex' : IsHex others s) : bytes = others :=
  Option.some.inj ((ofHex?_eq_some.mpr hex).symm.trans (ofHex?_eq_some.mpr hex'))

theorem IsHex.length {bytes : Bytes} {s : List Char} (hex : IsHex bytes s) :
    s.length = 2 * bytes.length := by
  induction hex with
  | nil => rfl
  | cons digits rest ih =>
    simp only [List.length_cons, ih]
    omega

theorem IsHex.solid {bytes : Bytes} {s : List Char} (hex : IsHex bytes s) :
    ∀ c ∈ s, Text.isBlank c = false := by
  have digit : ∀ {c d}, Text.hexValue? c = some d → Text.isBlank c = false := by
    intro c d value
    simp only [Text.hexValue?] at value
    simp only [Text.isBlank]
    split_ifs at value <;> grind
  induction hex with
  | nil => simp
  | cons digits rest ih =>
    obtain ⟨h, l, high, low, -⟩ := spells_pair.mp digits
    exact List.forall_mem_cons.mpr ⟨digit high, List.forall_mem_cons.mpr ⟨digit low, ih⟩⟩

theorem hexValue?_hexDigit : ∀ d < 16, Text.hexValue? (hexDigit d) = some d := by
  decide

theorem isHex_toHexChars (bytes : Bytes) : IsHex bytes (toHexChars bytes) := by
  induction bytes with
  | nil => exact .nil
  | cons b bytes ih =>
    have small := b.toNat_lt
    refine .cons (spells_pair.mpr ⟨_, _, hexValue?_hexDigit _ ?_, hexValue?_hexDigit _ ?_, ?_⟩) ih <;> omega

end ChainFollower.Bytes

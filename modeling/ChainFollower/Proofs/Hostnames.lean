import ChainFollower.Proofs.Cutting

/-!
The grammar of host names, and that the test for them comes to it.
-/

namespace ChainFollower

/-- One to 63 ASCII letters, digits, hyphens and underscores, with no hyphen at either end. -/
structure IsLabel (s : List Char) : Prop where
  some : s ≠ []
  short : s.length ≤ 63
  characters : ∀ c ∈ s, c.isAlphanum = true ∨ c = '-' ∨ c = '_'
  starts : s.head? ≠ .some '-'
  ends : s.getLast? ≠ .some '-'

structure IsHostname (s : List Char) : Prop where
  labels : ∃ labels, s = List.intercalate ['.'] labels ∧ labels ≠ [] ∧ ∀ l ∈ labels, IsLabel l
  short : (String.ofList s).utf8ByteSize ≤ 253

theorem isNameChar_iff {c : Char} :
    Host.isNameChar c = true ↔ c.isAlphanum = true ∨ c = '-' ∨ c = '_' := by
  delta Host.isNameChar Char.isAlphanum Char.isAlpha Char.isUpper Char.isLower Char.isDigit
  simp only [Bool.or_eq_true, Bool.and_eq_true, decide_eq_true_eq, beq_iff_eq, ge_iff_le,
    UInt32.le_iff_toNat_le, Char.toNat]
  simp
  tauto

theorem isLabel_iff {s : List Char} : Host.isLabel s = true ↔ IsLabel s := by
  simp only [Host.isLabel, Bool.and_eq_true, Bool.not_eq_true', List.isEmpty_eq_false_iff,
    decide_eq_true_eq, bne_iff_ne, List.all_eq_true, isNameChar_iff]
  constructor
  · rintro ⟨⟨⟨⟨some, short⟩, starts⟩, ends⟩, characters⟩
    exact ⟨some, short, characters, starts, ends⟩
  · rintro ⟨some, short, characters, starts, ends⟩
    exact ⟨⟨⟨⟨some, short⟩, starts⟩, ends⟩, characters⟩

theorem mem_intercalate {sep : Char} {pieces : List (List Char)} {c : Char}
    (member : c ∈ List.intercalate [sep] pieces) : c = sep ∨ ∃ piece ∈ pieces, c ∈ piece := by
  induction pieces with
  | nil => simp at member
  | cons piece pieces ih =>
    by_cases last : pieces = []
    · rw [last, List.intercalate_singleton] at member
      exact .inr ⟨piece, by simp, member⟩
    · rw [List.intercalate_cons_of_ne_nil last] at member
      simp only [List.mem_append, List.mem_singleton] at member
      rcases member with (own | divides) | later
      · exact .inr ⟨piece, by simp, own⟩
      · exact .inl divides
      · rcases ih later with divides | ⟨other, inside, own⟩
        · exact .inl divides
        · exact .inr ⟨other, List.mem_cons_of_mem _ inside, own⟩

theorem labels_characters {labels : List (List Char)} (all : ∀ l ∈ labels, IsLabel l) :
    ∀ c ∈ List.intercalate ['.'] labels, Host.isNameChar c = true ∨ c = '.' := by
  intro c hc
  rcases mem_intercalate hc with dot | ⟨label, inside, own⟩
  · exact .inr dot
  · exact .inl (isNameChar_iff.mpr ((all label inside).characters c own))

theorem toNat_of_isNameChar {c : Char} (character : Host.isNameChar c = true ∨ c = '.') :
    33 ≤ c.toNat ∧ c.toNat ≤ 126 := by
  rcases character with named | rfl
  · simp only [Host.isNameChar, Bool.or_eq_true, Bool.and_eq_true, decide_eq_true_eq,
      beq_iff_eq] at named
    rcases named with (((range | range) | range) | rfl) | rfl
    all_goals first | omega | decide
  · decide

/-- Characters and bytes count alike in a text of these. -/
theorem utf8ByteSize_eq_length {s : List Char}
    (characters : ∀ c ∈ s, Host.isNameChar c = true ∨ c = '.') :
    (String.ofList s).utf8ByteSize = s.length := by
  induction s with
  | nil => rfl
  | cons c s ih =>
    have range := toNat_of_isNameChar (characters c (by simp))
    have one : c.utf8Size = 1 := by
      rw [Char.utf8Size_eq_one_iff, UInt32.le_iff_toNat_le]
      exact range.2.trans (by decide)
    rw [String.ofList_cons, String.utf8ByteSize_append, String.utf8ByteSize_singleton, one,
      ih fun d hd => characters d (List.mem_cons_of_mem _ hd), List.length_cons, Nat.add_comm]

theorem isName_iff {s : List Char} : Host.isName s = true ↔ IsHostname s := by
  simp only [Host.isName, Bool.and_eq_true, Bool.not_eq_true', List.isEmpty_eq_false_iff,
    decide_eq_true_eq, List.all_eq_true, isLabel_iff, Text.splitWhen_eq_splitOn]
  constructor
  · rintro ⟨⟨some, short⟩, all⟩
    refine ⟨⟨s.splitOn '.', (List.intercalate_splitOn '.').symm, List.splitOn_ne_nil _ _, all⟩, ?_⟩
    have characters := labels_characters all
    rw [List.intercalate_splitOn] at characters
    rw [utf8ByteSize_eq_length characters]
    exact short
  · rintro ⟨⟨labels, rfl, some, all⟩, short⟩
    rw [utf8ByteSize_eq_length (labels_characters all)] at short
    have noDot : ∀ l ∈ labels, '.' ∉ l := by
      intro l hl dot
      have character := isNameChar_iff.mpr ((all l hl).characters '.' dot)
      exact absurd character (by decide)
    rw [List.splitOn_intercalate '.' noDot some]
    refine ⟨⟨?_, short⟩, all⟩
    intro nothing
    obtain ⟨label, more, rfl⟩ := List.exists_cons_of_ne_nil some
    have label_some := (all label (by simp)).some
    cases more with
    | nil => simp [label_some] at nothing
    | cons next more => simp [List.intercalate_cons_cons] at nothing

theorem IsHostname.characters {s : List Char} (isHostname : IsHostname s) :
    ∀ c ∈ s, Host.isNameChar c = true ∨ c = '.' := by
  obtain ⟨labels, rfl, -, all⟩ := isHostname.labels
  exact labels_characters all

/-- A host name has no character that divides it from a port, nor brackets. -/
theorem IsHostname.not_mem {s : List Char} (isHostname : IsHostname s) : ':' ∉ s ∧ '[' ∉ s := by
  constructor
  · intro member
    exact absurd (isHostname.characters _ member) (by decide)
  · intro member
    exact absurd (isHostname.characters _ member) (by decide)

theorem IsHostname.ne_nil {s : List Char} (isHostname : IsHostname s) : s ≠ [] := by
  have named := isName_iff.mpr isHostname
  rintro rfl
  exact absurd named (by decide)

end ChainFollower

import ChainFollower.Proofs.Cutting

/-!
Texts as words with white space between them. Which words a text has says all there is to its trimmed
form but for the white space inside.
-/

namespace ChainFollower.Text

/-- The text has these words in this order, with white space between any two of them and maybe at its
ends. -/
inductive Spaced : List (List Char) → List Char → Prop where
  | gap {s : List Char} (blank : ∀ c ∈ s, isBlank c = true) : Spaced [] s
  | word {front word back : List Char} {others : List (List Char)}
      (blank : ∀ c ∈ front, isBlank c = true) (some : word ≠ [])
      (solid : ∀ c ∈ word, isBlank c = false) (parted : ∀ c ∈ back.head?, isBlank c = true)
      (rest : Spaced others back) : Spaced (word :: others) (front ++ (word ++ back))

theorem words_append_cons {c : Char} (blank : isBlank c = true) (s t : List Char) :
    words (s ++ c :: t) = words s ++ words t := by
  simp [words, splitWhen_append_cons blank]

theorem words_blank_append {s : List Char} (blank : ∀ c ∈ s, isBlank c = true) (t : List Char) :
    words (s ++ t) = words t := by
  induction s with
  | nil => rfl
  | cons c s ih =>
    obtain ⟨first, others⟩ := List.forall_mem_cons.mp blank
    exact (words_append_cons first [] (s ++ t)).trans (ih others)

theorem words_eq_nil {s : List Char} (blank : ∀ c ∈ s, isBlank c = true) : words s = [] := by
  have none : words (s ++ []) = words [] := words_blank_append blank []
  rwa [List.append_nil] at none

theorem words_append_blank {t : List Char} (blank : ∀ c ∈ t, isBlank c = true) (s : List Char) :
    words (s ++ t) = words s := by
  cases t with
  | nil => rw [List.append_nil]
  | cons c t =>
    obtain ⟨first, others⟩ := List.forall_mem_cons.mp blank
    rw [words_append_cons first, words_eq_nil others, List.append_nil]

theorem splitWhen_uncut {α : Type} {p : α → Bool} {s : List α} (uncut : ∀ c ∈ s, p c = false) :
    splitWhen p s = [s] := by
  induction s with
  | nil => rfl
  | cons c s ih =>
    obtain ⟨first, others⟩ := List.forall_mem_cons.mp uncut
    simp [splitWhen, first, ih others]

theorem words_solid {s : List Char} (some : s ≠ []) (solid : ∀ c ∈ s, isBlank c = false) :
    words s = [s] := by
  rw [words, splitWhen_uncut solid]
  exact List.filter_cons_of_pos (by simpa using some)

theorem Spaced.words_eq {ws : List (List Char)} {s : List Char} (spaced : Spaced ws s) :
    words s = ws := by
  induction spaced with
  | gap blank => exact words_eq_nil blank
  | @word front word back others blank some solid parted rest ih =>
    rw [words_blank_append blank]
    cases back with
    | nil =>
      rw [List.append_nil, words_solid some solid, ← ih]
      rfl
    | cons c back =>
      have cut : isBlank c = true := parted c rfl
      have behind : words (c :: back) = words back := words_append_cons cut [] back
      rw [words_append_cons cut, words_solid some solid, ← behind, ih]
      rfl

/-- A text that does not begin with white space begins with a word. -/
theorem exists_word {s : List Char} (some : s ≠ []) (starts : Stops isBlank s) :
    ∃ word back, s = word ++ back ∧ word ≠ [] ∧ (∀ c ∈ word, isBlank c = false) ∧
      ∀ c ∈ back.head?, isBlank c = true := by
  obtain ⟨cut, solid, parted⟩ := (span_iff (p := fun c => !isBlank c) (s := s)).mp ⟨rfl, rfl⟩
  refine ⟨_, _, cut, ?_, by simpa using solid, by simpa [Stops] using parted⟩
  cases s with
  | nil => exact absurd rfl some
  | cons c rest =>
    have first : isBlank c = false := starts c rfl
    simp [first]

theorem spaced_words (s : List Char) : Spaced (words s) s := by
  induction length : s.length using Nat.strongRecOn generalizing s with
  | ind n ih =>
    obtain ⟨cut, blank, starts⟩ := (span_iff (p := isBlank) (s := s)).mp ⟨rfl, rfl⟩
    generalize s.takeWhile isBlank = front at cut blank
    generalize s.dropWhile isBlank = rest at cut starts
    subst cut
    by_cases none : rest = []
    · rw [none, List.append_nil, words_eq_nil blank]
      exact .gap blank
    · obtain ⟨word, back, rfl, some, solid, parted⟩ := exists_word none starts
      have longer := List.length_pos_iff.mpr some
      simp only [List.length_append] at length
      have spaced := Spaced.word blank some solid parted (ih back.length (by omega) back rfl)
      rwa [spaced.words_eq]

theorem spaced_iff {ws : List (List Char)} {s : List Char} : Spaced ws s ↔ words s = ws := by
  constructor
  · exact Spaced.words_eq
  · rintro rfl
    exact spaced_words s

theorem words_trim (s : List Char) : words (trim s) = words s := by
  obtain ⟨front, back, whole, fronted, backed, -, -⟩ := trimmed_trim s
  generalize trim s = t at whole ⊢
  rw [whole, List.append_assoc, words_blank_append fronted, words_append_blank backed]

theorem trim_eq_nil {s : List Char} : trim s = [] ↔ words s = [] := by
  constructor
  · intro empty
    rw [← words_trim, empty]
    rfl
  · intro none
    obtain ⟨-, -, -, -, -, starts, -⟩ := trimmed_trim s
    cases spaced_iff.mpr ((words_trim s).trans none) with
    | gap blank =>
      cases known : trim s with
      | nil => rfl
      | cons c rest =>
        rw [known] at starts blank
        have first : isBlank c = true := blank c List.mem_cons_self
        have other : isBlank c = false := starts c rfl
        rw [first] at other
        contradiction

/-- A text of one word is that word when it is trimmed. -/
theorem trim_eq_word {s word : List Char} (single : words s = [word]) : trim s = word := by
  cases spaced_iff.mpr single with
  | @word front _ back _ blank some solid parted rest =>
    cases rest with
    | gap backed =>
      rw [← List.append_assoc]
      exact Trimmed.trim_eq ⟨front, back, rfl, blank, backed,
        fun c first => solid c (List.mem_of_mem_head? first),
        fun c last => solid c (List.mem_reverse.mp (List.mem_of_mem_head? last))⟩

/-- A text of several words has white space between them also when it is trimmed. -/
theorem blank_mem_trim {s word other : List Char} {others : List (List Char)}
    (several : words s = word :: other :: others) : ∃ c ∈ trim s, isBlank c = true := by
  by_contra none
  have solid : ∀ c ∈ trim s, isBlank c = false := fun c member =>
    Bool.eq_false_iff.mpr fun blank => none ⟨c, member, blank⟩
  rw [← words_trim] at several
  by_cases empty : trim s = []
  · rw [empty] at several
    cases several
  · rw [words_solid empty solid] at several
    cases several

theorem mem_words {s word : List Char} (member : word ∈ words s) :
    word ≠ [] ∧ ∀ c ∈ word, isBlank c = false := by
  obtain ⟨among, some⟩ := List.mem_filter.mp member
  exact ⟨by simpa using some, uncut_of_mem_splitWhen among⟩

theorem words_intercalate {ws : List (List Char)}
    (all : ∀ word ∈ ws, word ≠ [] ∧ ∀ c ∈ word, isBlank c = false) :
    words ([' '].intercalate ws) = ws := by
  induction ws with
  | nil => rfl
  | cons word ws ih =>
    obtain ⟨⟨some, solid⟩, others⟩ := List.forall_mem_cons.mp all
    cases ws with
    | nil => rw [List.intercalate_singleton, words_solid some solid]
    | cons next ws =>
      have blank : isBlank ' ' = true := by decide
      rw [List.intercalate_cons_cons, List.append_assoc, List.singleton_append,
        words_append_cons blank, words_solid some solid, ih others]
      rfl

end ChainFollower.Text

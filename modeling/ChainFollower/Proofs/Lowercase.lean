import ChainFollower.Proofs.Mnemonics
import ChainFollower.Proofs.Spacing
import ChainFollower.Seed.Decode

/-!
The lower case of a whole text, in which a character may become several, and which may depend on its
neighbours. Whatever it makes of characters that are no letters of a listed word, the same seeds are
read as when each character is taken by itself.
-/

namespace ChainFollower.Seed

/-- The second text is a lower case of the first, as far as Unicode says the same of all texts: ASCII
goes by its own rule, the Kelvin sign becomes a small k, and white space stays. Any other character
becomes one or more that are not white space, and not all of them ASCII. -/
inductive Lowercases : List Char → List Char → Prop where
  | nil : Lowercases [] []
  | ascii {c : Char} {s t : List Char} (ascii : c.toNat < 128) (rest : Lowercases s t) :
      Lowercases (c :: s) (c.toLower :: t)
  | kelvin {s t : List Char} (rest : Lowercases s t) : Lowercases ('\u212a' :: s) ('k' :: t)
  | blank {c : Char} {s t : List Char} (blank : Text.isBlank c = true) (rest : Lowercases s t) :
      Lowercases (c :: s) (c :: t)
  | other {c : Char} {image s t : List Char} (beyond : 128 ≤ c.toNat) (unlike : c ≠ '\u212a')
      (visible : Text.isBlank c = false) (foreign : ∃ d ∈ image, 128 ≤ d.toNat)
      (solid : ∀ d ∈ image, Text.isBlank d = false) (rest : Lowercases s t) :
      Lowercases (c :: s) (image ++ t)

theorem lower_ascii {c : Char} (ascii : c.toNat < 128) : lower c = c.toLower := by
  have small : ∀ n < 128, (Char.ofNat n).toNat = n := by decide
  rw [← Char.toNat_inj, Text.toNat_toLower, lower]
  split
  · rw [small _ (by omega)]
  · rw [if_neg (by omega)]

theorem lower_beyond {c : Char} (beyond : 128 ≤ c.toNat) (unlike : c ≠ '\u212a') : lower c = c := by
  have other : c.toNat ≠ 0x212a := fun same => unlike (Char.toNat_inj.mp same)
  rw [lower, if_neg (by omega), if_neg other]

theorem isBlank_toLower (c : Char) : Text.isBlank c.toLower = Text.isBlank c := by
  simp only [Text.isBlank, Text.toNat_toLower]
  split
  · rename_i letter
    grind
  · rfl

theorem lower_blank {c : Char} (blank : Text.isBlank c = true) : lower c = c := by
  simp only [Text.isBlank] at blank
  rw [lower, if_neg (by grind), if_neg (by grind)]

section

variable {s t u : List Char}

theorem Lowercases.append (lowers : Lowercases (s ++ u) t) :
    ∃ front back, t = front ++ back ∧ Lowercases s front ∧ Lowercases u back := by
  induction s generalizing t with
  | nil => exact ⟨[], t, rfl, .nil, lowers⟩
  | cons c s ih =>
    cases lowers with
    | ascii ascii rest =>
      obtain ⟨front, back, rfl, first, second⟩ := ih rest
      exact ⟨_, back, rfl, .ascii ascii first, second⟩
    | kelvin rest =>
      obtain ⟨front, back, rfl, first, second⟩ := ih rest
      exact ⟨_, back, rfl, .kelvin first, second⟩
    | blank blank rest =>
      obtain ⟨front, back, rfl, first, second⟩ := ih rest
      exact ⟨_, back, rfl, .blank blank first, second⟩
    | other beyond unlike visible foreign solid rest =>
      obtain ⟨front, back, rfl, first, second⟩ := ih rest
      exact ⟨_, back, (List.append_assoc _ _ _).symm,
        .other beyond unlike visible foreign solid first, second⟩

theorem Lowercases.space (lowers : Lowercases (' ' :: u) t) :
    ∃ back, t = ' ' :: back ∧ Lowercases u back := by
  generalize first : ' ' :: u = s at lowers
  cases lowers with
  | nil => cases first
  | ascii ascii rest =>
    cases first
    exact ⟨_, rfl, rest⟩
  | kelvin rest => cases first
  | blank blank rest =>
    cases first
    exact ⟨_, rfl, rest⟩
  | other beyond unlike visible foreign solid rest =>
    cases first
    cases visible

theorem Lowercases.solid (lowers : Lowercases s t) (some : s ≠ [])
    (solid : ∀ c ∈ s, Text.isBlank c = false) :
    t ≠ [] ∧ ∀ c ∈ t, Text.isBlank c = false := by
  refine ⟨?_, ?_⟩
  · cases lowers with
    | nil => exact absurd rfl some
    | ascii => nofun
    | kelvin => nofun
    | blank => nofun
    | other beyond unlike visible foreign solid' rest =>
      obtain ⟨d, inside, -⟩ := foreign
      exact List.append_ne_nil_of_left_ne_nil (List.ne_nil_of_mem inside) _
  · clear some
    induction lowers with
    | nil => exact solid
    | ascii ascii rest ih =>
      obtain ⟨first, others⟩ := List.forall_mem_cons.mp solid
      exact List.forall_mem_cons.mpr ⟨(isBlank_toLower _).trans first, ih others⟩
    | kelvin rest ih =>
      exact List.forall_mem_cons.mpr ⟨by decide, ih (List.forall_mem_cons.mp solid).2⟩
    | blank blank rest ih =>
      exact List.forall_mem_cons.mpr ⟨(List.forall_mem_cons.mp solid).1,
        ih (List.forall_mem_cons.mp solid).2⟩
    | other beyond unlike visible foreign solid' rest ih =>
      exact List.forall_mem_append.mpr ⟨solid', ih (List.forall_mem_cons.mp solid).2⟩

theorem Lowercases.words {ws : List (List Char)}
    (all : ∀ word ∈ ws, word ≠ [] ∧ ∀ c ∈ word, Text.isBlank c = false)
    (lowers : Lowercases ([' '].intercalate ws) t) :
    List.Forall₂ Lowercases ws (Text.words t) := by
  induction ws generalizing t with
  | nil =>
    cases lowers
    exact .nil
  | cons word ws ih =>
    obtain ⟨⟨some, solid⟩, others⟩ := List.forall_mem_cons.mp all
    cases ws with
    | nil =>
      rw [List.intercalate_singleton] at lowers
      obtain ⟨some', solid'⟩ := lowers.solid some solid
      rw [Text.words_solid some' solid']
      exact .cons lowers .nil
    | cons next ws =>
      rw [List.intercalate_cons_cons, List.append_assoc] at lowers
      obtain ⟨front, back, rfl, first, behind⟩ := lowers.append
      obtain ⟨rest, rfl, last⟩ := behind.space
      obtain ⟨some', solid'⟩ := first.solid some solid
      have blank : Text.isBlank ' ' = true := by decide
      rw [Text.words_append_cons blank, Text.words_solid some' solid']
      exact .cons first (ih others last)

end

/-- No letter of a listed word is beyond ASCII. -/
def Foreign (word : List Char) : Prop :=
  ∃ c ∈ word, 128 ≤ c.toNat

/-- The list has both or neither, and both at the same place. -/
def SameWord (word other : List Char) : Prop :=
  word = other ∨ Foreign word ∧ Foreign other

theorem SameWord.cons {word other : List Char} (c : Char) (same : SameWord word other) :
    SameWord (c :: word) (c :: other) := by
  rcases same with rfl | ⟨⟨d, inside, foreign⟩, ⟨d', inside', foreign'⟩⟩
  · exact .inl rfl
  · exact .inr ⟨⟨d, .tail _ inside, foreign⟩, ⟨d', .tail _ inside', foreign'⟩⟩

theorem Foreign.index? {word : List Char} (foreign : Foreign word) :
    English.index? word = none := by
  obtain ⟨c, inside, beyond⟩ := foreign
  refine English.index?_eq_none.mpr fun member => ?_
  have letter := (English.letters_of_mem member).2 c inside
  omega

theorem SameWord.index? {word other : List Char} (same : SameWord word other) :
    English.index? word = English.index? other := by
  rcases same with rfl | ⟨foreign, foreign'⟩
  · rfl
  · rw [foreign.index?, foreign'.index?]

/-- A word becomes what it becomes one character after the other, unless it has a character in it
that no listed word has. Then it also keeps one. -/
theorem Lowercases.sameWord {s t : List Char} (lowers : Lowercases s t) :
    SameWord t (s.map lower) := by
  induction lowers with
  | nil => exact .inl rfl
  | ascii ascii rest ih =>
    rw [List.map_cons, lower_ascii ascii]
    exact ih.cons _
  | kelvin rest ih => exact ih.cons 'k'
  | blank blank rest ih =>
    rw [List.map_cons, lower_blank blank]
    exact ih.cons _
  | other beyond unlike visible foreign solid rest ih =>
    obtain ⟨d, inside, foreign⟩ := foreign
    refine .inr ⟨⟨d, List.mem_append_left _ inside, foreign⟩, ⟨_, List.mem_cons_self, ?_⟩⟩
    rwa [lower_beyond beyond unlike]

theorem lowercases_map_lower (s : List Char) : Lowercases s (s.map lower) := by
  induction s with
  | nil => exact .nil
  | cons c s ih =>
    rw [List.map_cons]
    by_cases ascii : c.toNat < 128
    · rw [lower_ascii ascii]
      exact .ascii ascii ih
    by_cases kelvin : c = '\u212a'
    · rw [kelvin]
      exact .kelvin ih
    have beyond : 128 ≤ c.toNat := Nat.le_of_not_lt ascii
    rw [lower_beyond beyond kelvin]
    cases visible : Text.isBlank c with
    | true => exact .blank visible ih
    | false =>
      exact .other beyond kelvin visible ⟨c, List.mem_singleton_self c, beyond⟩
        (List.forall_mem_singleton.mpr visible) ih

namespace Mnemonic

/-- Of a word only its place in the list counts. -/
theorem indices_congr {ws others : List (List Char)}
    (same : List.Forall₂ (fun word other => English.index? word = English.index? other) ws others)
    (position : Nat) : indices position ws = indices position others := by
  induction same generalizing position with
  | nil => rfl
  | cons first rest ih => rw [indices, indices, first, ih]

theorem decode_congr {ws others : List (List Char)}
    (same : List.Forall₂ (fun word other => English.index? word = English.index? other) ws others) :
    decode ws = decode others := by
  have length := same.length_eq
  have indices := indices_congr same 0
  cases same with
  | nil => rfl
  | cons first rest => simp only [decode, first, length, indices]

end Mnemonic

/-- The words of a text read the same whichever way its lower case is made, before or after it is cut
into words. -/
theorem decode_lowered {lowered : List Char → List Char} (lowers : ∀ u, Lowercases u (lowered u))
    (s : List Char) :
    Mnemonic.decode (Text.words (lowered ([' '].intercalate (Text.words s)))) =
      Mnemonic.decode ((Text.words s).map (·.map lower)) := by
  have words := (lowers ([' '].intercalate (Text.words s))).words fun word => Text.mem_words
  refine Mnemonic.decode_congr (List.forall₂_map_right_iff.mpr ?_)
  exact words.flip.imp fun word other lowers' => lowers'.sameWord.index?

end ChainFollower.Seed

import ChainFollower.Proofs.Numerals

/-!
Texts cut at separators and freed of white space at their ends, without the loops that do it.
-/

namespace ChainFollower.Text

theorem splitWhen_eq_splitOnP {α : Type} (p : α → Bool) (s : List α) :
    splitWhen p s = s.splitOnP p := by
  induction s with
  | nil => rfl
  | cons c rest ih =>
    rw [List.splitOnP_cons_eq_if_modifyHead, ← ih, splitWhen]
    split
    · rfl
    · cases pieces : splitWhen p rest with
      | nil => exact absurd pieces (splitWhen_ne_nil p rest)
      | cons piece pieces => rfl

theorem splitWhen_eq_splitOn {α : Type} [BEq α] (c : α) (s : List α) :
    splitWhen (· == c) s = s.splitOn c := by
  rw [splitWhen_eq_splitOnP, List.splitOn_eq_splitOnP]

theorem uncut_of_mem_splitWhen {α : Type} {p : α → Bool} {s piece : List α}
    (member : piece ∈ splitWhen p s) : ∀ c ∈ piece, p c = false := by
  induction s generalizing piece with
  | nil => simp_all [splitWhen]
  | cons x rest ih =>
    rw [splitWhen] at member
    split at member
    · rcases List.mem_cons.mp member with rfl | later
      · simp
      · exact ih later
    · rename_i inside
      split at member
      · rename_i none
        exact absurd none (splitWhen_ne_nil p rest)
      · rename_i first others pieces
        rw [pieces] at ih
        rcases List.mem_cons.mp member with rfl | later
        · rw [List.forall_mem_cons]
          exact ⟨Bool.eq_false_iff.mpr inside, ih List.mem_cons_self⟩
        · exact ih (List.mem_cons_of_mem _ later)

theorem splitLast_eq_none {c : Char} {s : List Char} : splitLast c s = none ↔ c ∉ s := by
  induction s with
  | nil => simp [splitLast]
  | cons x rest ih =>
    simp only [splitLast, List.mem_cons, not_or]
    split
    · rename_i found
      simp [← ih, found]
    · rename_i absent
      rw [← ih]
      split
      · rename_i same
        simp [same]
      · rename_i other
        simpa [absent] using fun same => other same.symm

theorem splitLast_eq_some {c : Char} {s front back : List Char} :
    splitLast c s = some (front, back) ↔ s = front ++ c :: back ∧ c ∉ back := by
  constructor
  · intro found
    induction s generalizing front with
    | nil => cases found
    | cons x rest ih =>
      rw [splitLast] at found
      split at found
      · rename_i before after inside
        cases found
        obtain ⟨cut, last⟩ := ih inside
        exact ⟨by rw [cut]; rfl, last⟩
      · rename_i absent
        split at found
        · rename_i same
          cases found
          exact ⟨by rw [same]; rfl, splitLast_eq_none.mp absent⟩
        · cases found
  · rintro ⟨rfl, last⟩
    induction front with
    | nil => simp [splitLast, splitLast_eq_none.mpr last]
    | cons x front ih => simp [splitLast, ih]

theorem last_cut_unique {c : Char} {front back front' back' : List Char}
    (same : front ++ c :: back = front' ++ c :: back') (last : c ∉ back) (last' : c ∉ back') :
    front = front' ∧ back = back' := by
  have found : splitLast c (front ++ c :: back) = some (front, back) :=
    splitLast_eq_some.mpr ⟨rfl, last⟩
  have found' : splitLast c (front ++ c :: back) = some (front', back') :=
    splitLast_eq_some.mpr ⟨same, last'⟩
  cases found.symm.trans found'
  exact ⟨rfl, rfl⟩

theorem dropLast?_eq_some {c : Char} {s front : List Char} :
    dropLast? c s = some front ↔ s = front ++ [c] := by
  simp only [dropLast?]
  constructor
  · intro dropped
    split at dropped
    · rename_i last
      obtain ⟨before, rfl⟩ := List.getLast?_eq_some_iff.mp last
      simpa using dropped
    · cases dropped
  · rintro rfl
    simp

def Trimmed (s t : List Char) : Prop :=
  ∃ front back, s = front ++ t ++ back ∧ (∀ c ∈ front, isBlank c = true) ∧
    (∀ c ∈ back, isBlank c = true) ∧ Stops isBlank t ∧ Stops isBlank t.reverse

theorem Trimmed.trim_eq {s t : List Char} (trimmed : Trimmed s t) : trim s = t := by
  obtain ⟨front, back, rfl, fronted, backed, starts, ends⟩ := trimmed
  have kept : ∀ u : List Char, Stops isBlank u → u.dropWhile isBlank = u := fun u stops =>
    (span_iff.mpr ⟨(List.nil_append u).symm, by simp, stops⟩).2
  rw [trim, trimStart, List.append_assoc, List.dropWhile_append_of_pos fronted, trimEnd]
  cases t with
  | nil =>
    have none : back.dropWhile isBlank = [] := List.dropWhile_eq_nil_iff.mpr backed
    simp [none]
  | cons c t =>
    have first : Stops isBlank (c :: t ++ back) := starts
    have last : ∀ d ∈ back.reverse, isBlank d = true := by simpa using backed
    rw [kept _ first, List.reverse_append, List.dropWhile_append_of_pos last, kept _ ends,
      List.reverse_reverse]

theorem trimmed_trim (s : List Char) : Trimmed s (trim s) := by
  obtain ⟨cut, fronted, starts⟩ := (span_iff (p := isBlank) (s := s)).mp ⟨rfl, rfl⟩
  obtain ⟨cut', backed, ends⟩ :=
    (span_iff (p := isBlank) (s := (s.dropWhile isBlank).reverse)).mp ⟨rfl, rfl⟩
  have whole : s.dropWhile isBlank =
      trim s ++ ((s.dropWhile isBlank).reverse.takeWhile isBlank).reverse := by
    rw [trim, trimEnd, trimStart, ← List.reverse_append, ← cut', List.reverse_reverse]
  refine ⟨s.takeWhile isBlank, ((s.dropWhile isBlank).reverse.takeWhile isBlank).reverse,
    ?_, fronted, ?_, ?_, ?_⟩
  · rw [List.append_assoc, ← whole]
    exact cut
  · intro c hc
    exact backed c (List.mem_reverse.mp hc)
  · rw [whole] at starts
    exact starts.left
  · rw [trim, trimEnd, List.reverse_reverse]
    exact ends

theorem trimmed_iff {s t : List Char} : Trimmed s t ↔ t = trim s := by
  constructor
  · intro trimmed
    exact trimmed.trim_eq.symm
  · rintro rfl
    exact trimmed_trim s

theorem trim_eq_self {s : List Char} (plain : ∀ c ∈ s, isBlank c = false) : trim s = s := by
  have starts : Stops isBlank s := fun c first => plain c (List.mem_of_mem_head? first)
  have ends : Stops isBlank s.reverse := fun c last =>
    plain c (List.mem_reverse.mp (List.mem_of_mem_head? last))
  exact Trimmed.trim_eq ⟨[], [], by simp, by simp, by simp, starts, ends⟩

end ChainFollower.Text

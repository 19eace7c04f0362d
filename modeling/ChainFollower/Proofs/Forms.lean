import ChainFollower.Proofs.Scalars

/-!
Values of JSON in general: the texts that a skip takes for one value, of any depth, with any space
between their tokens.
-/

namespace ChainFollower.Json

variable {α : Type}

inductive Joined (item : α → List Char → Prop) : List α → List Char → Prop where
  | single {a : α} {s : List Char} (only : item a s) : Joined item [a] s
  | cons {a : α} {as : List α} {s t : List Char} (first : item a s) (rest : Joined item as t) :
      Joined item (a :: as) (s ++ ',' :: t)

namespace Bracket

def opening : Bracket → Char
  | list => '['
  | object => '\x7b'

def Holds (bracket : Bracket) (item : α → List Char → Prop) (items : List α) (s : List Char) :
    Prop :=
  ∃ inside, (items = [] ∧ IsSpaces inside ∨ Joined item items inside) ∧
    s = bracket.opening :: (inside ++ [bracket.closing])

def IsKey : Bracket → List Char → Prop
  | list, key => key = []
  | object, key => ∃ before inside behind, IsSpaces before ∧ IsInside inside ∧ IsSpaces behind ∧
      key = before ++ '"' :: (inside ++ '"' :: (behind ++ [':']))

def Item (bracket : Bracket) (item : List Char × List Char) (s : List Char) : Prop :=
  bracket.IsKey item.1 ∧ ∃ before behind, IsSpaces before ∧ IsSpaces behind ∧
    s = item.1 ++ (before ++ (item.2 ++ behind))

end Bracket

inductive IsScalar : List Char → Prop where
  | word {s : List Char} (known : s = "null".toList ∨ s = "true".toList ∨ s = "false".toList) :
      IsScalar s
  | number {s : List Char} (number : IsNumber s) : IsScalar s
  | string {inside : List Char} (string : IsInside inside) : IsScalar ('"' :: (inside ++ ['"']))

inductive IsValue : List Char → Prop where
  | scalar {s : List Char} (scalar : IsScalar s) : IsValue s
  | bracketed {bracket : Bracket} {items : List (List Char × List Char)} {s : List Char}
      (holds : bracket.Holds bracket.Item items s) (values : ∀ item ∈ items, IsValue item.2) :
      IsValue s

theorem ends_cons {w : List Char} (spaces : IsSpaces w) {c : Char}
    (apart : c = ',' ∨ c = ']' ∨ c = '\x7d') (rest : List Char) : Ends (w ++ c :: rest) := by
  cases w with
  | nil => rcases apart with rfl | rfl | rfl <;> simp [Ends, Text.Stops, Text.isDigit]
  | cons space w =>
    have space : isSpace space = true := spaces space (by simp)
    simp only [isSpace, Bool.or_eq_true, beq_iff_eq] at space
    rcases space with ((rfl | rfl) | rfl) | rfl <;> simp [Ends, Text.Stops, Text.isDigit]

theorem closing_apart (bracket : Bracket) :
    bracket.closing = ',' ∨ bracket.closing = ']' ∨ bracket.closing = '\x7d' := by
  cases bracket <;> decide

/-- Neither space nor a bracket that matters in front of a value. -/
def IsPlain (c : Char) : Prop :=
  isSpace c = false ∧ c ≠ '[' ∧ c ≠ ']' ∧ c ≠ '\x7b'

instance (c : Char) : Decidable (IsPlain c) :=
  inferInstanceAs (Decidable (_ ∧ _))

theorem isPlain_of_isDigit {c : Char} (digit : Text.isDigit c = true) : IsPlain c :=
  ⟨solid_of_starts (.inr digit), ne_of_isDigit digit (by decide), ne_of_isDigit digit (by decide),
    ne_of_isDigit digit (by decide)⟩

theorem IsUnsigned.starts {s : List Char} (unsigned : IsUnsigned s) :
    ∃ c t, s = c :: t ∧ Text.isDigit c = true := by
  obtain ⟨whole, fraction, exponent, natural, -, -, rfl⟩ := unsigned
  rcases natural with rfl | ⟨number, -⟩
  · exact ⟨'0', _, rfl, by decide⟩
  · obtain ⟨d, ds, rfl, digit, -⟩ := number.exists_cons
    exact ⟨d, _, rfl, digit⟩

theorem skipScalar_of_isDigit {c : Char} (digit : Text.isDigit c = true) (s : List Char) :
    skipScalar (c :: s) = skipNumber (c :: s) := by
  rw [skipScalar, if_neg (ne_of_isDigit digit (by decide)), if_neg (ne_of_isDigit digit (by decide)),
    if_neg (ne_of_isDigit digit (by decide)), if_neg (ne_of_isDigit digit (by decide)), if_pos digit]

theorem IsScalar.skip {s : List Char} (scalar : IsScalar s) {rest : List Char} (ends : Ends rest) :
    ∃ c t, s = c :: t ∧ IsPlain c ∧ skipScalar (s ++ rest) = .ok rest := by
  cases scalar with
  | word known =>
    rcases known with rfl | rfl | rfl
    · exact ⟨'n', _, rfl, by decide, by simp [skipScalar, Json.word]⟩
    · exact ⟨'t', _, rfl, by decide, by simp [skipScalar, Json.word]⟩
    · exact ⟨'f', _, rfl, by decide, by simp [skipScalar, Json.word]⟩
  | number number =>
    rcases number with unsigned | ⟨unsigned, number, rfl⟩
    · have skipped := skipNumber_append unsigned ends
      obtain ⟨c, t, rfl, digit⟩ := unsigned.starts
      exact ⟨c, t, rfl, isPlain_of_isDigit digit, (skipScalar_of_isDigit digit _).trans skipped⟩
    · exact ⟨'-', _, rfl, by decide, skipNumber_append number ends⟩
  | @string inside string =>
    have skipped := skipString_inside string rest
    refine ⟨'"', _, rfl, by decide, ?_⟩
    rw [List.cons_append, List.append_assoc, List.singleton_append]
    exact skipped

/-- What follows a value when `stack` has the brackets around it. -/
def leave (fuel : Nat) (stack : List Bracket) (rest : List Char) : Except Problem (List Char) :=
  if stack.isEmpty then .ok rest else skipAt fuel .behindValue stack rest

theorem IsScalar.skipAt {s w : List Char} (scalar : IsScalar s) (spaces : IsSpaces w)
    {rest : List Char} (ends : Ends rest) (fuel : Nat) (stack : List Bracket) :
    skipAt (fuel + 1) .value stack (w ++ (s ++ rest)) = leave fuel stack rest := by
  obtain ⟨c, t, rfl, ⟨solid, list, -, object⟩, skipped⟩ := scalar.skip ends
  rw [List.cons_append] at skipped ⊢
  simp [Json.skipAt, skipSpace_cons spaces solid, list, object, skipped, leave]

theorem skipAt_opening (bracket : Bracket) {w : List Char} (spaces : IsSpaces w) (fuel : Nat)
    (stack : List Bracket) (rest : List Char) :
    skipAt (fuel + 1) .value stack (w ++ bracket.opening :: rest) =
      skipAt fuel .opened (bracket :: stack) rest := by
  have solid : isSpace bracket.opening = false := by
    cases bracket <;> decide
  rw [Json.skipAt, skipSpace_cons spaces solid]
  cases bracket <;> rfl

theorem skipAt_closing (bracket : Bracket) {place : Place} (inside : place ≠ .value) {w : List Char}
    (spaces : IsSpaces w) (fuel : Nat) (outer : List Bracket) (rest : List Char) :
    skipAt (fuel + 1) place (bracket :: outer) (w ++ bracket.closing :: rest) =
      leave fuel outer rest := by
  have solid : isSpace bracket.closing = false := by
    cases bracket <;> decide
  cases place with
  | value => exact absurd rfl inside
  | opened => simp [Json.skipAt, skipSpace_cons spaces solid, leave]
  | behindValue => simp [Json.skipAt, skipSpace_cons spaces solid, leave]

theorem skipAt_comma (bracket : Bracket) {w : List Char} (spaces : IsSpaces w) {s t : List Char}
    (key : skipKey bracket s = .ok t) (fuel : Nat) (outer : List Bracket) :
    skipAt (fuel + 1) .behindValue (bracket :: outer) (w ++ ',' :: s) =
      skipAt fuel .value (bracket :: outer) t := by
  have other : ',' ≠ bracket.closing := by
    cases bracket <;> decide
  simp [Json.skipAt, skipSpace_cons spaces (c := ',') (by decide), other, key]

/-- Looking for a first item does not depend on the space in front of it. -/
theorem skipAt_opened {bracket : Bracket} {s t : List Char}
    (first : ∃ c rest, skipSpace s = c :: rest ∧ c ≠ bracket.closing)
    (key : skipKey bracket s = .ok t) (fuel : Nat) (outer : List Bracket) :
    skipAt (fuel + 1) .opened (bracket :: outer) s = skipAt fuel .value (bracket :: outer) t := by
  obtain ⟨c, rest, here, other⟩ := first
  have again : skipSpace (c :: rest) = c :: rest := here ▸ skipSpace_idem s
  cases bracket with
  | list =>
    cases key
    cases fuel <;> simp [Json.skipAt, here, other, skipKey, again]
  | object =>
    have same : skipKey .object (c :: rest) = .ok t := by
      rw [skipKey, here] at key
      rw [skipKey, again, key]
    simp [Json.skipAt, here, other, same]

theorem Bracket.IsKey.skip {bracket : Bracket} {key : List Char} (isKey : bracket.IsKey key)
    (s : List Char) : skipKey bracket (key ++ s) = .ok s := by
  cases bracket with
  | list =>
    cases isKey
    rfl
  | object =>
    obtain ⟨before, inside, behind, spaces, string, spaces', rfl⟩ := isKey
    have colon : skipSpace (behind ++ ':' :: s) = ':' :: s := skipSpace_cons spaces' (by decide) s
    simp [skipKey, skipSpace_cons spaces (c := '"') (by decide), skipString_inside string,
      behindColon, colon]

/-- A skip takes the text for a value, wherever it stands, and takes at most two steps for each of
its characters. -/
def Skips (s : List Char) : Prop :=
  ∃ used ≤ 2 * s.length, ∀ fuel stack w rest, IsSpaces w → Ends rest →
    skipAt (fuel + used) .value stack (w ++ (s ++ rest)) = leave fuel stack rest

/-- A skip that stands before the key of an item gets over the item. -/
theorem Bracket.Item.skip {bracket : Bracket} {item : List Char × List Char} {s : List Char}
    (stands : bracket.Item item s) (skips : Skips item.2) :
    ∃ used ≤ 2 * s.length, ∃ w, IsSpaces w ∧ ∀ fuel outer c rest, c = ',' ∨ c = ']' ∨ c = '\x7d' →
      ∃ t, skipKey bracket (s ++ c :: rest) = .ok t ∧
        skipAt (fuel + used) .value (bracket :: outer) t =
          skipAt fuel .behindValue (bracket :: outer) (w ++ c :: rest) := by
  obtain ⟨key, before, behind, spaces, spaces', rfl⟩ := stands
  obtain ⟨used, few, skipped⟩ := skips
  refine ⟨used, ?_, behind, spaces', ?_⟩
  · simp only [List.length_append]
    omega
  · intro fuel outer c rest apart
    refine ⟨before ++ (item.2 ++ (behind ++ c :: rest)), ?_, ?_⟩
    · simpa using key.skip (before ++ (item.2 ++ (behind ++ c :: rest)))
    · exact skipped fuel (bracket :: outer) before _ spaces (ends_cons spaces' apart rest)

/-- A skip that stands before the key of an item gets over all items and their closing bracket. -/
theorem skipAt_joined {bracket : Bracket} {items : List (List Char × List Char)} {s : List Char}
    (joined : Joined bracket.Item items s) (skips : ∀ item ∈ items, Skips item.2) :
    ∃ used ≤ 2 * s.length + 1, ∀ fuel outer rest, ∃ t,
      skipKey bracket (s ++ bracket.closing :: rest) = .ok t ∧
        skipAt (fuel + used) .value (bracket :: outer) t = leave fuel outer rest := by
  induction joined with
  | @single item s only =>
    obtain ⟨used, few, w, spaces, skipped⟩ := only.skip (skips item (by simp))
    refine ⟨1 + used, by omega, fun fuel outer rest => ?_⟩
    obtain ⟨t, key, value⟩ := skipped (fuel + 1) outer _ rest (closing_apart bracket)
    refine ⟨t, key, ?_⟩
    rw [← Nat.add_assoc, value, skipAt_closing bracket (by decide) spaces]
  | @cons item items s t first _ ih =>
    -- The key behind the comma is skipped together with it, so that the others start as the first did.
    obtain ⟨used, few, w, spaces, skipped⟩ := first.skip (skips item (by simp))
    obtain ⟨more, few', skipped'⟩ := ih fun item among => skips item (by simp [among])
    refine ⟨more + 1 + used, ?_, fun fuel outer rest => ?_⟩
    · simp only [List.length_append, List.length_cons]
      omega
    · obtain ⟨t', key', others⟩ := skipped' fuel outer rest
      obtain ⟨t'', key, value⟩ :=
        skipped (fuel + more + 1) outer ',' (t ++ bracket.closing :: rest) (.inl rfl)
      refine ⟨t'', by simpa using key, ?_⟩
      rw [← Nat.add_assoc, ← Nat.add_assoc, value, skipAt_comma bracket spaces key', others]

theorem IsValue.starts {s : List Char} (value : IsValue s) :
    ∃ c t, s = c :: t ∧ isSpace c = false ∧ c ≠ ']' := by
  cases value with
  | scalar scalar =>
    obtain ⟨c, t, rfl, ⟨solid, -, closing, -⟩, -⟩ := scalar.skip ends_nil
    exact ⟨c, t, rfl, solid, closing⟩
  | @bracketed bracket items s holds _ =>
    obtain ⟨inside, -, rfl⟩ := holds
    exact ⟨_, _, rfl, by cases bracket <;> decide, by cases bracket <;> decide⟩

/-- The first item does not begin with the closing bracket. -/
theorem Bracket.Item.starts {bracket : Bracket} {item : List Char × List Char} {s : List Char}
    (stands : bracket.Item item s) (value : IsValue item.2) (rest : List Char) :
    ∃ c t, skipSpace (s ++ rest) = c :: t ∧ c ≠ bracket.closing := by
  obtain ⟨key, before, behind, spaces, -, rfl⟩ := stands
  cases bracket with
  | list =>
    obtain ⟨c, t, first, solid, other⟩ := value.starts
    refine ⟨c, t ++ (behind ++ rest), ?_, other⟩
    have here := skipSpace_cons spaces solid (t ++ (behind ++ rest))
    have none : item.1 = [] := key
    simpa [none, first] using here
  | object =>
    obtain ⟨front, inside, back, spaces', -, -, same⟩ := key
    have here := skipSpace_cons spaces' (c := '"') (by decide)
      (inside ++ '"' :: (back ++ ':' :: (before ++ (item.2 ++ (behind ++ rest)))))
    exact ⟨_, _, by simpa [same] using here, by decide⟩

theorem Joined.starts {bracket : Bracket} {items : List (List Char × List Char)} {s : List Char}
    (joined : Joined bracket.Item items s) (values : ∀ item ∈ items, IsValue item.2)
    (rest : List Char) : ∃ c t, skipSpace (s ++ rest) = c :: t ∧ c ≠ bracket.closing := by
  cases joined with
  | @single item s only => exact only.starts (values item (by simp)) rest
  | @cons item items s t first others =>
    simpa using first.starts (values item (by simp)) (',' :: (t ++ rest))

theorem IsValue.skips {s : List Char} (value : IsValue s) : Skips s := by
  -- The stack takes the place of recursion, so that what follows is the same at every depth.
  induction value with
  | @scalar s scalar =>
    obtain ⟨c, t, same, -⟩ := scalar.skip ends_nil
    refine ⟨1, ?_, fun fuel stack w rest spaces ends => scalar.skipAt spaces ends fuel stack⟩
    rw [same, List.length_cons]
    omega
  | @bracketed bracket items s holds values ih =>
    obtain ⟨inside, stands, rfl⟩ := holds
    rcases stands with ⟨-, blank⟩ | joined
    · refine ⟨1 + 1, ?_, fun fuel stack w rest spaces _ => ?_⟩
      · simp only [List.length_cons, List.length_append]
        omega
      · have opened := skipAt_opening bracket spaces (fuel + 1) stack
          (inside ++ bracket.closing :: rest)
        simp only [List.cons_append, List.append_assoc, List.nil_append, ← Nat.add_assoc]
        rw [opened, skipAt_closing bracket (by decide) blank]
    · obtain ⟨used, few, skipped⟩ := skipAt_joined joined ih
      refine ⟨used + 1 + 1, ?_, fun fuel stack w rest spaces _ => ?_⟩
      · simp only [List.length_cons, List.length_append]
        omega
      · have opened := skipAt_opening bracket spaces (fuel + used + 1) stack
          (inside ++ bracket.closing :: rest)
        obtain ⟨t, key, others⟩ := skipped fuel stack rest
        simp only [List.cons_append, List.append_assoc, List.nil_append, ← Nat.add_assoc]
        rw [opened, skipAt_opened (joined.starts values _) key, others]

/-- A value that nobody asked for is skipped, whatever it is. -/
theorem skipValue_append {s w rest : List Char} (value : IsValue s) (spaces : IsSpaces w)
    (ends : Ends rest) : skipValue (w ++ (s ++ rest)) = .ok rest := by
  obtain ⟨used, few, skipped⟩ := value.skips
  obtain ⟨fuel, enough⟩ : ∃ fuel, 2 * (w ++ (s ++ rest)).length + 2 = fuel + used :=
    ⟨2 * (w ++ (s ++ rest)).length + 2 - used, by
      simp only [List.length_append]
      omega⟩
  rw [skipValue, enough, skipped fuel [] w rest spaces ends]
  rfl

end ChainFollower.Json

import ChainFollower.Proofs.Hexadecimal
import ChainFollower.Proofs.Lowercase

/-!
A seed typed twice. Neither the case of its letters nor the amount and the kind of its white space
makes a difference, whether it is read or refused.
-/

namespace ChainFollower

def SameLetter (c d : Char) : Prop :=
  c.toLower = d.toLower

instance : DecidableRel SameLetter := fun c d => inferInstanceAs (Decidable (c.toLower = d.toLower))

theorem SameLetter.symm {c d : Char} (same : SameLetter c d) : SameLetter d c := Eq.symm same

theorem SameLetter.hexValue? {c d : Char} (same : SameLetter c d) :
    Text.hexValue? c = Text.hexValue? d :=
  Option.ext fun value => by
    rw [Text.hexValue?_eq_some, Text.hexValue?_eq_some, show c.toLower = d.toLower from same]

theorem Bytes.IsHex.retyped {bytes : Bytes} {s t : List Char} (hex : IsHex bytes s)
    (same : List.Forall₂ SameLetter s t) : IsHex bytes t := by
  induction hex generalizing t with
  | nil =>
    cases same
    exact .nil
  | cons digits rest ih =>
    obtain _ | ⟨first, _ | ⟨second, others⟩⟩ := same
    rw [spells_pair, first.hexValue?, second.hexValue?] at digits
    exact .cons (spells_pair.mpr digits) (ih others)

theorem Bytes.ofHex?_retyped {s t : List Char} (same : List.Forall₂ SameLetter s t) :
    ofHex? s = ofHex? t :=
  Option.ext fun bytes => by
    rw [ofHex?_eq_some, ofHex?_eq_some]
    exact ⟨fun hex => hex.retyped same, fun hex => hex.retyped (same.flip.imp fun _ _ => .symm)⟩

namespace Seed

theorem lower_toLower (c : Char) : lower c.toLower = lower c := by
  by_cases ascii : c.toNat < 128
  · have small : c.toLower.toNat < 128 := by
      rw [Text.toNat_toLower]
      split <;> omega
    rw [lower_ascii small, lower_ascii ascii, ← Char.toNat_inj]
    simp only [Text.toNat_toLower]
    split_ifs <;> omega
  · have same : c.toLower = c := by
      rw [← Char.toNat_inj, Text.toNat_toLower, if_neg (by omega)]
    rw [same]

theorem lower_retyped {c d : Char} (same : SameLetter c d) : lower c = lower d := by
  rw [← lower_toLower c, ← lower_toLower d, show c.toLower = d.toLower from same]

theorem map_eq_map {α β : Type} {R : α → α → Prop} {f : α → β} {as bs : List α}
    (same : ∀ a b, R a b → f a = f b) (all : List.Forall₂ R as bs) : as.map f = bs.map f := by
  induction all with
  | nil => rfl
  | cons first rest ih => rw [List.map_cons, List.map_cons, same _ _ first, ih]

def Retyped (s t : String) : Prop :=
  ∃ parts others, Text.Spaced parts s.toList ∧ Text.Spaced others t.toList ∧
    List.Forall₂ (List.Forall₂ SameLetter) parts others

section

variable {s t : List Char}

/-- Hexadecimal digits are one word. -/
theorem ofHex?_several {word other : List Char} {others : List (List Char)}
    (several : Text.words s = word :: other :: others) : Bytes.ofHex? (Text.trim s) = none := by
  refine Option.eq_none_iff_forall_not_mem.mpr fun bytes read => ?_
  obtain ⟨c, inside, blank⟩ := Text.blank_mem_trim several
  have solid := (Bytes.ofHex?_eq_some.mp read).solid c inside
  rw [blank] at solid
  contradiction

theorem ofHex?_trim_retyped
    (same : List.Forall₂ (List.Forall₂ SameLetter) (Text.words s) (Text.words t)) :
    Bytes.ofHex? (Text.trim s) = Bytes.ofHex? (Text.trim t) := by
  generalize left : Text.words s = parts at same
  generalize right : Text.words t = others at same
  cases same with
  | nil => rw [Text.trim_eq_nil.mpr left, Text.trim_eq_nil.mpr right]
  | cons first rest =>
    cases rest with
    | nil =>
      rw [Text.trim_eq_word left, Text.trim_eq_word right]
      exact Bytes.ofHex?_retyped first
    | cons second rest => rw [ofHex?_several left, ofHex?_several right]

end

theorem Retyped.decode {s t : String} (retyped : Retyped s t) : decode t = decode s := by
  obtain ⟨parts, others, spaced, spaced', same⟩ := retyped
  obtain rfl := spaced.words_eq
  obtain rfl := spaced'.words_eq
  have hex := ofHex?_trim_retyped same
  have words : (Text.words s.toList).map (·.map lower) = (Text.words t.toList).map (·.map lower) :=
    map_eq_map (fun _ _ => map_eq_map fun _ _ => lower_retyped) same
  have empty : Text.trim t.toList = [] ↔ Text.trim s.toList = [] := by
    rw [Text.trim_eq_nil, Text.trim_eq_nil, ← List.length_eq_zero_iff, ← List.length_eq_zero_iff,
      same.length_eq]
  simp only [Seed.decode, List.isEmpty_iff, empty, ofTrimmed, hex, Text.words_trim, words]

/-- Reads a seed with a lower case for whole texts, which is made of the words put together again. -/
def decodeBy (lowered : List Char → List Char) (input : String) : Except Problem Bytes :=
  let s := Text.trim input.toList
  if s.isEmpty then .error .empty
  else
    match Bytes.ofHex? s with
    | some bytes =>
      if minLength ≤ bytes.length ∧ bytes.length ≤ maxLength then .ok bytes
      else .error (.hexLength bytes.length)
    | none =>
      match Mnemonic.decode (Text.words (lowered ([' '].intercalate (Text.words s)))) with
      | .ok entropy => .ok entropy
      | .error problem => .error (.mnemonic problem)

theorem decodeBy_eq {lowered : List Char → List Char} (lowers : ∀ u, Lowercases u (lowered u))
    (input : String) : decodeBy lowered input = decode input := by
  simp only [decodeBy, decode_lowered lowers]
  rfl

/-- A seed typed in another case or with other white space is read as the same bytes or refused for
the same reason. In which way the lower case treats characters that are not ASCII, or not ASCII alone,
makes no difference either. -/
theorem decode_retyped {s t : String} (retyped : Retyped s t) :
    decode t = decode s ∧
      ∀ lowered : List Char → List Char, (∀ u, Lowercases u (lowered u)) →
        decodeBy lowered s = decode s ∧ decodeBy lowered t = decode s :=
  ⟨retyped.decode, fun _ lowers =>
    ⟨decodeBy_eq lowers s, (decodeBy_eq lowers t).trans retyped.decode⟩⟩

theorem decode_retyped_shouted :
    let plain := "abandon abandon abandon abandon abandon abandon abandon abandon abandon abandon " ++
      "abandon about"
    let shouted := "\t ABANDON Abandon\u2003abandon abandon abandon abandon abandon abandon\n" ++
      "abandon abandon abandon  aBOUT\u3000"
    Retyped plain shouted ∧ decode plain = .ok (List.replicate 16 0) ∧
      decode shouted = .ok (List.replicate 16 0) ∧
      decodeBy (·.map lower) shouted = .ok (List.replicate 16 0) := by
  intro plain shouted
  have retyped : Retyped plain shouted :=
    ⟨_, _, Text.spaced_words _, Text.spaced_words _, by decide +kernel⟩
  have read : decode plain = .ok (List.replicate 16 0) := by decide +kernel
  obtain ⟨same, lowered⟩ := decode_retyped retyped
  have shouted' := (lowered (·.map lower) lowercases_map_lower).2
  exact ⟨retyped, read, same.trans read, shouted'.trans read⟩

end Seed

end ChainFollower

import Mathlib.Data.List.Chain
import Mathlib.Data.List.Nodup
import ChainFollower.Seed.English

/-!
The English word list: 2048 words in alphabetical order, so that no two are the same, and none of them
empty or with anything but small letters in it.
-/

namespace ChainFollower.Seed.English

/-- The bytes of a text. Checking these is cheaper than decoding the text, which for small letters
comes to the same. -/
def codes (text : String) : List Nat :=
  text.toByteArray.data.toList.map UInt8.toNat

theorem length_words : words.length = 2048 := by decide +kernel

theorem codes_words : ∀ word ∈ words,
    codes word ≠ [] ∧ ∀ code ∈ codes word, 97 ≤ code ∧ code ≤ 122 := by decide +kernel

theorem codes_ascend : ∀ pair ∈ words.zip words.tail, codes pair.1 < codes pair.2 := by
  decide +kernel

theorem nodup_words : words.Nodup := by
  have chain : words.IsChain (fun word next => codes word < codes next) := by
    rw [List.isChain_iff_getElem]
    intro i bound
    have inside : i < (words.zip words.tail).length := by
      simp only [List.length_zip, List.length_tail]
      omega
    have pair := codes_ascend _ (List.getElem_mem inside)
    rwa [List.getElem_zip, List.getElem_tail] at pair
  have ascending : words.Pairwise (fun word next => codes word < codes next) := by
    have : IsTrans String (fun word next => codes word < codes next) :=
      ⟨fun _ _ _ => List.lt_trans⟩
    exact List.isChain_iff_pairwise.mp chain
  refine ascending.imp fun less same => ?_
  rw [same] at less
  exact List.lt_irrefl _ less

theorem codes_ofList (word : List Char) :
    codes (String.ofList word) = (word.flatMap String.utf8EncodeChar).map UInt8.toNat := by
  rw [codes, String.toByteArray_ofList, List.utf8Encode, List.toList_data_toByteArray]

/-- A character beyond ASCII begins with a byte beyond ASCII. -/
theorem toNat_of_encoded {c : Char}
    (ascii : ∀ b ∈ String.utf8EncodeChar c, b.toNat < 128) : c.toNat < 128 := by
  by_contra beyond
  have beyond : ¬ c.val.toNat ≤ 127 := fun small => beyond (Nat.lt_succ_of_le small)
  simp only [String.utf8EncodeChar, if_neg beyond] at ascii
  split_ifs at ascii <;>
    · have first := ascii _ List.mem_cons_self
      rw [UInt8.toNat_ofNat'] at first
      omega

theorem utf8EncodeChar_ascii {c : Char} (ascii : c.toNat < 128) :
    String.utf8EncodeChar c = [UInt8.ofNat c.toNat] :=
  if_pos (Nat.le_of_lt_succ ascii)

theorem letters_of_mem {word : List Char} (member : String.ofList word ∈ words) :
    word ≠ [] ∧ ∀ c ∈ word, 97 ≤ c.toNat ∧ c.toNat ≤ 122 := by
  obtain ⟨some, small⟩ := codes_words _ member
  rw [codes_ofList] at some small
  refine ⟨fun none => some (by simp [none]), fun c hc => ?_⟩
  have bytes : ∀ b ∈ String.utf8EncodeChar c, 97 ≤ b.toNat ∧ b.toNat ≤ 122 := fun b hb =>
    small _ (List.mem_map_of_mem (List.mem_flatMap.mpr ⟨c, hc, hb⟩))
  have ascii : c.toNat < 128 :=
    toNat_of_encoded fun b hb => (bytes b hb).2.trans_lt (by decide)
  rw [utf8EncodeChar_ascii ascii, List.forall_mem_singleton, UInt8.toNat_ofNat',
    Nat.mod_eq_of_lt (by omega)] at bytes
  exact bytes

def StandsAt (word : List Char) (place : Nat) : Prop :=
  words[place]? = some (String.ofList word)

theorem index?_eq_some {word : List Char} {place : Nat} :
    index? word = some place ↔ StandsAt word place := by
  rw [index?, List.idxOf?_eq_some_iff, StandsAt, List.getElem?_eq_some_iff]
  constructor
  · rintro ⟨bound, here, -⟩
    exact ⟨bound, here⟩
  · rintro ⟨bound, here⟩
    refine ⟨bound, here, fun j earlier there => ?_⟩
    have same := (List.Nodup.getElem_inj_iff nodup_words).mp (there.trans here.symm)
    omega

theorem index?_eq_none {word : List Char} : index? word = none ↔ String.ofList word ∉ words :=
  List.idxOf?_eq_none_iff

theorem StandsAt.lt {word : List Char} {place : Nat} (stands : StandsAt word place) :
    place < 2048 := by
  obtain ⟨bound, -⟩ := List.getElem?_eq_some_iff.mp stands
  rwa [length_words] at bound

theorem StandsAt.mem {word : List Char} {place : Nat} (stands : StandsAt word place) :
    String.ofList word ∈ words :=
  List.mem_of_getElem? stands

theorem StandsAt.unique {word other : List Char} {place : Nat} (stands : StandsAt word place)
    (stands' : StandsAt other place) : word = other :=
  String.ofList_injective (Option.some.inj (stands.symm.trans stands'))

theorem standsAt_getD {place : Nat} (small : place < 2048) :
    StandsAt (words.getD place "").toList place := by
  have bound : place < words.length := by rwa [length_words]
  rw [StandsAt, String.ofList_toList, List.getD_eq_getElem?_getD, List.getElem?_eq_getElem bound]
  rfl

end ChainFollower.Seed.English

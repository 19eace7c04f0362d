import ChainFollower.Proofs.Lexicon
import ChainFollower.Proofs.Packing
import ChainFollower.Seed.Mnemonic

/-!
What mnemonics are, as BIP39 has it and without bits: the words are the digits of one number in base
2048. Reading takes just these, and writing gives the only one that an entropy has.
-/

namespace ChainFollower.Seed

theorem length_hash (message : Bytes) : (Sha256.hash message).length = 32 := rfl

/-- The standard's message of three letters, `abc`. -/
example : Bytes.toHex (Sha256.hash [0x61, 0x62, 0x63]) =
    "ba7816bf8f01cfea414140de5dae2223b00361a396177a9cb410ff61f20015ad" := by decide +kernel

namespace Mnemonic

/-- The words are the mnemonic of the entropy. Each is the digit of its place in the list, and the
number that they are is the entropy with the first bits of its hash behind it, one bit for every four
bytes. -/
def IsMnemonic (words : List (List Char)) (entropy : Bytes) : Prop :=
  entropy.length ∈ [16, 20, 24, 28, 32] ∧ 4 * words.length = 3 * entropy.length ∧
    ∃ (places : List Nat) (first : UInt8) (others : Bytes),
      List.Forall₂ English.StandsAt words places ∧
      Sha256.hash entropy = first :: others ∧
      Bits.number 2048 places =
        Bits.number 256 (entropy.map UInt8.toNat) * 2 ^ (entropy.length / 4) +
          first.toNat / 2 ^ (8 - entropy.length / 4)

theorem mem_sizes {size : Nat} :
    size ∈ [16, 20, 24, 28, 32] ↔ ∃ k, 4 ≤ k ∧ k ≤ 8 ∧ size = 4 * k := by
  simp only [List.mem_cons, List.not_mem_nil, or_false]
  constructor
  · intro one
    exact ⟨size / 4, by omega⟩
  · rintro ⟨k, least, most, same⟩
    omega

theorem allowedCount_iff {count : Nat} :
    allowedCount count = true ↔ ∃ k, 4 ≤ k ∧ k ≤ 8 ∧ count = 3 * k := by
  simp only [allowedCount, Bool.and_eq_true, beq_iff_eq, decide_eq_true_eq]
  constructor
  · intro allowed
    exact ⟨count / 3, by omega⟩
  · rintro ⟨k, least, most, same⟩
    omega

theorem indices_eq_ok {position : Nat} {words : List (List Char)} {places : List Nat} :
    indices position words = .ok places ↔ List.Forall₂ English.StandsAt words places := by
  induction words generalizing position places with
  | nil => simp [indices, eq_comm]
  | cons word words ih =>
    rw [indices]
    cases known : English.index? word with
    | none =>
      have unlisted := English.index?_eq_none.mp known
      constructor
      · intro read
        cases read
      · rintro (_ | ⟨here, -⟩)
        exact absurd here.mem unlisted
    | some place =>
      have listed := English.index?_eq_some.mp known
      dsimp only
      constructor
      · intro read
        cases rest : indices (position + 1) words with
        | error problem =>
          rw [rest] at read
          cases read
        | ok found =>
          rw [rest] at read
          cases read
          exact .cons listed (ih.mp rest)
      · rintro (_ | ⟨here, others⟩)
        rw [ih.mpr others]
        rw [← English.index?_eq_some, known] at here
        cases here
        rfl

theorem length_checksum {entropy : Bytes} (few : entropy.length ≤ 32) :
    (checksum entropy).length = entropy.length / 4 := by
  rw [checksum, List.length_take, Bits.length_ofBytes, length_hash]
  omega

theorem toNat_checksum {entropy others : Bytes} {first : UInt8} (few : entropy.length ≤ 32)
    (hash : Sha256.hash entropy = first :: others) :
    Bits.toNat (checksum entropy) = first.toNat / 2 ^ (8 - entropy.length / 4) := by
  have within : entropy.length / 4 ≤ (Bits.ofNat 8 first.toNat).length := by
    rw [Bits.length_ofNat]
    omega
  have front : Bits.ofBytes (first :: others) = Bits.ofNat 8 first.toNat ++ Bits.ofBytes others :=
    rfl
  rw [checksum, hash, front, List.take_append_of_le_length within, Bits.toNat_take,
    Bits.length_ofNat, Bits.toNat_ofNat, Nat.mod_eq_of_lt first.toNat_lt]

/-- Bits are read as the entropy that they begin with, if its checksum is what stands behind it. -/
theorem ofBits_eq_ok {bits : List Bool} {k : Nat} (few : k ≤ 8) (length : bits.length = 33 * k)
    {entropy : Bytes} :
    ofBits bits = .ok entropy ↔
      entropy.length = 4 * k ∧ bits = Bits.ofBytes entropy ++ checksum entropy := by
  have size : bits.length / 33 * 32 = 8 * (4 * k) := by omega
  have front : (bits.take (8 * (4 * k))).length = 8 * (4 * k) := by
    rw [List.length_take]
    omega
  simp only [ofBits, size]
  constructor
  · intro read
    split at read
    · rename_i agrees
      cases read
      have again := Bits.ofBytes_toBytes front
      have count := Bits.length_ofBytes (Bits.toBytes (bits.take (8 * (4 * k))))
      rw [again] at count
      refine ⟨by omega, ?_⟩
      rw [again, agrees, List.take_append_drop]
    · cases read
  · rintro ⟨bytes, whole⟩
    have cut : (Bits.ofBytes entropy).length = 8 * (4 * k) := by rw [Bits.length_ofBytes, bytes]
    have high : bits.take (8 * (4 * k)) = Bits.ofBytes entropy := by
      rw [whole, List.take_left' cut]
    have low : bits.drop (8 * (4 * k)) = checksum entropy := by rw [whole, List.drop_left' cut]
    rw [high, low, Bits.toBytes_ofBytes, if_pos rfl]

theorem place_lt {words : List (List Char)} {places : List Nat}
    (listed : List.Forall₂ English.StandsAt words places) : ∀ place ∈ places, place < 2 ^ 11 := by
  induction listed with
  | nil => simp
  | cons here rest ih => exact List.forall_mem_cons.mpr ⟨here.lt, ih⟩

/-- The bits of the words are the entropy and its checksum exactly if the words are the digits of the
number that these make up. -/
theorem bits_eq_iff {places : List Nat} {entropy : Bytes} {k : Nat} (few : k ≤ 8)
    (small : ∀ place ∈ places, place < 2 ^ 11) (count : places.length = 3 * k)
    (size : entropy.length = 4 * k) :
    places.flatMap (Bits.ofNat 11) = Bits.ofBytes entropy ++ checksum entropy ↔
      Bits.number 2048 places =
        Bits.number 256 (entropy.map UInt8.toNat) * 2 ^ (entropy.length / 4) +
          Bits.toNat (checksum entropy) := by
  have short : (checksum entropy).length = entropy.length / 4 := length_checksum (by omega)
  have length : (places.flatMap (Bits.ofNat 11)).length =
      (Bits.ofBytes entropy ++ checksum entropy).length := by
    rw [Bits.length_flatMap_ofNat, List.length_append, Bits.length_ofBytes, short]
    omega
  rw [← Bits.toNat_inj length, Bits.toNat_flatMap_ofNat small, Bits.toNat_append,
    Bits.toNat_ofBytes, short]
  rfl

/-- Looking at the first word before the words are counted makes no difference to what is taken. -/
theorem decode_eq_ok {words : List (List Char)} {entropy : Bytes} :
    decode words = .ok entropy ↔
      allowedCount words.length = true ∧ ∃ places, indices 0 words = .ok places ∧
        ofBits (places.flatMap (Bits.ofNat 11)) = .ok entropy := by
  cases words with
  | nil =>
    constructor
    · intro read
      cases read
    · rintro ⟨allowed, -⟩
      cases allowed
  | cons word rest =>
    simp only [decode]
    constructor
    · intro read
      split_ifs at read with unknown other
      rw [Bool.not_eq_true', Bool.not_eq_false] at other
      cases found : indices 0 (word :: rest) with
      | error problem =>
        rw [found] at read
        cases read
      | ok places =>
        rw [found] at read
        exact ⟨other, places, rfl, read⟩
    · rintro ⟨allowed, places, found, read⟩
      obtain _ | ⟨listed, -⟩ := indices_eq_ok.mp found
      rw [English.index?_eq_some.mpr listed, allowed, found]
      exact read

theorem decode_iff {words : List (List Char)} {entropy : Bytes} :
    decode words = .ok entropy ↔ IsMnemonic words entropy := by
  have begins : ∃ first others, Sha256.hash entropy = first :: others := ⟨_, _, rfl⟩
  rw [decode_eq_ok, allowedCount_iff, IsMnemonic, mem_sizes]
  constructor
  · rintro ⟨⟨k, least, most, count⟩, places, found, read⟩
    have listed := indices_eq_ok.mp found
    have same := listed.length_eq
    have small := place_lt listed
    have length := Bits.length_flatMap_ofNat 11 places
    obtain ⟨size, whole⟩ := (ofBits_eq_ok most (by omega)).mp read
    obtain ⟨first, others, hash⟩ := begins
    have value := (bits_eq_iff most small (by omega) size).mp whole
    rw [toNat_checksum (by omega) hash] at value
    exact ⟨⟨k, least, most, size⟩, by omega, places, first, others, listed, hash, value⟩
  · rintro ⟨⟨k, least, most, size⟩, count, places, first, others, listed, hash, value⟩
    have same := listed.length_eq
    have small := place_lt listed
    have length := Bits.length_flatMap_ofNat 11 places
    rw [← toNat_checksum (by omega) hash] at value
    have whole := (bits_eq_iff most small (by omega) size).mpr value
    exact ⟨⟨k, least, most, by omega⟩, places, indices_eq_ok.mpr listed,
      (ofBits_eq_ok most (by omega)).mpr ⟨size, whole⟩⟩

theorem listed_unique {words others : List (List Char)} {places : List Nat}
    (listed : List.Forall₂ English.StandsAt words places)
    (listed' : List.Forall₂ English.StandsAt others places) : words = others := by
  induction listed generalizing others with
  | nil =>
    cases listed'
    rfl
  | cons here rest ih =>
    obtain _ | ⟨here', rest'⟩ := listed'
    rw [here.unique here', ih rest']

theorem IsMnemonic.length {words : List (List Char)} {entropy : Bytes}
    (spoken : IsMnemonic words entropy) :
    12 ≤ words.length ∧ 16 ≤ entropy.length ∧ entropy.length ≤ 32 := by
  obtain ⟨size, count, -⟩ := spoken
  obtain ⟨k, least, most, length⟩ := mem_sizes.mp size
  omega

theorem IsMnemonic.letters {words : List (List Char)} {entropy : Bytes}
    (spoken : IsMnemonic words entropy) :
    ∀ word ∈ words, word ≠ [] ∧ ∀ c ∈ word, 97 ≤ c.toNat ∧ c.toNat ≤ 122 := by
  obtain ⟨-, -, places, -, -, listed, -⟩ := spoken
  induction listed with
  | nil => simp
  | cons here rest ih => exact List.forall_mem_cons.mpr ⟨English.letters_of_mem here.mem, ih⟩

/-- An entropy has one mnemonic. -/
theorem IsMnemonic.unique {words others : List (List Char)} {entropy : Bytes}
    (one : IsMnemonic words entropy) (other : IsMnemonic others entropy) : words = others := by
  obtain ⟨-, count, places, first, _, listed, hash, value⟩ := one
  obtain ⟨-, count', places', first', _, listed', hash', value'⟩ := other
  obtain ⟨rfl, -⟩ := List.cons.inj (hash.symm.trans hash')
  have same : places = places' := by
    refine Bits.number_inj (by decide) ?_ (place_lt listed) (place_lt listed')
      (value.trans value'.symm)
    have length := listed.length_eq
    have length' := listed'.length_eq
    omega
  exact listed_unique listed (same ▸ listed')

theorem listed_getD {places : List Nat} (small : ∀ place ∈ places, place < 2 ^ 11) :
    List.Forall₂ English.StandsAt
      (places.map (fun place => (English.words.getD place "").toList)) places := by
  rw [List.forall₂_map_left_iff, List.forall₂_same]
  exact fun place member => English.standsAt_getD (small place member)

theorem isMnemonic_encode {entropy : Bytes} (size : entropy.length ∈ [16, 20, 24, 28, 32]) :
    IsMnemonic ((encode entropy).map String.toList) entropy := by
  obtain ⟨k, least, most, length⟩ := mem_sizes.mp size
  let bits := Bits.ofBytes entropy ++ checksum entropy
  have long : bits.length = 11 * (3 * k) := by
    rw [List.length_append, Bits.length_ofBytes, length_checksum (by omega)]
    omega
  have pieces : bits.length / 11 = 3 * k := by omega
  let places := (Bits.pieces 11 (3 * k) bits).map Bits.toNat
  have again : places.flatMap (Bits.ofNat 11) = bits := Bits.flatMap_pieces long
  have small : ∀ place ∈ places, place < 2 ^ 11 := by
    intro place member
    obtain ⟨piece, among, rfl⟩ := List.mem_map.mp member
    have below := Bits.toNat_lt piece
    rwa [Bits.length_of_mem_pieces long among] at below
  have written : (encode entropy).map String.toList =
      places.map (fun place => (English.words.getD place "").toList) := by
    change ((Bits.pieces 11 (bits.length / 11) bits).map _).map _ = _
    rw [pieces, List.map_map, List.map_map]
    rfl
  have count : places.length = 3 * k := by rw [List.length_map, Bits.length_pieces]
  rw [← decode_iff, decode_eq_ok, allowedCount_iff, written]
  refine ⟨⟨k, least, most, by rw [List.length_map, count]⟩, places,
    indices_eq_ok.mpr (listed_getD small), ?_⟩
  rw [again]
  exact (ofBits_eq_ok most (by omega)).mpr ⟨length, rfl⟩

end Mnemonic

end ChainFollower.Seed

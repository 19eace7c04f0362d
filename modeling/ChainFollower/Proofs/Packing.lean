import Mathlib.Data.Nat.Digits.Lemmas
import ChainFollower.Seed.Bits

/-!
Bits, bytes and wider digits as forms of one number, and that cutting bits into pieces and putting the
pieces together undo each other.
-/

namespace ChainFollower.Bits

def number (base : Nat) (digits : List Nat) : Nat :=
  Nat.ofDigits base digits.reverse

theorem number_append (base : Nat) (high low : List Nat) :
    number base (high ++ low) = number base high * base ^ low.length + number base low := by
  rw [number, List.reverse_append, Nat.ofDigits_append, List.length_reverse, Nat.add_comm,
    Nat.mul_comm]
  rfl

theorem number_cons (base digit : Nat) (digits : List Nat) :
    number base (digit :: digits) = digit * base ^ digits.length + number base digits := by
  have single : number base [digit] = digit := by simp [number]
  rw [← List.singleton_append, number_append, single]

theorem number_inj {base : Nat} (several : 1 < base) {digits others : List Nat}
    (length : digits.length = others.length) (small : ∀ d ∈ digits, d < base)
    (small' : ∀ d ∈ others, d < base) (same : number base digits = number base others) :
    digits = others := by
  refine List.reverse_injective (Nat.ofDigits_inj_of_len_eq several ?_ ?_ ?_ same)
  · rwa [List.length_reverse, List.length_reverse]
  · simpa using small
  · simpa using small'

theorem toNat_concat (bits : List Bool) (bit : Bool) :
    toNat (bits ++ [bit]) = 2 * toNat bits + bit.toNat := by
  rw [toNat, List.foldl_append]
  rfl

theorem toNat_append (high low : List Bool) :
    toNat (high ++ low) = toNat high * 2 ^ low.length + toNat low := by
  induction low using List.reverseRecOn with
  | nil => simp [toNat]
  | append_singleton low bit ih =>
    rw [← List.append_assoc, toNat_concat, toNat_concat, ih, List.length_append,
      List.length_singleton, Nat.pow_succ]
    grind

theorem length_ofNat (width n : Nat) : (ofNat width n).length = width := by
  induction width generalizing n with
  | zero => rfl
  | succ width ih => simp [ofNat, ih]

theorem toNat_ofNat (width n : Nat) : toNat (ofNat width n) = n % 2 ^ width := by
  induction width generalizing n with
  | zero => simp [ofNat, toNat, Nat.mod_one]
  | succ width ih =>
    have last : (n % 2 == 1).toNat = n % 2 := by
      rcases Nat.mod_two_eq_zero_or_one n with even | odd <;> simp [*]
    rw [ofNat, toNat_concat, ih, last, Nat.pow_succ, Nat.mul_comm (2 ^ width), Nat.mod_mul]
    omega

theorem ofNat_toNat (bits : List Bool) : ofNat bits.length (toNat bits) = bits := by
  induction bits using List.reverseRecOn with
  | nil => rfl
  | append_singleton bits bit ih =>
    have small := bit.toNat_lt
    have high : (2 * toNat bits + bit.toNat) / 2 = toNat bits := by omega
    have low : (2 * toNat bits + bit.toNat) % 2 = bit.toNat := by omega
    rw [List.length_append, List.length_singleton, toNat_concat, ofNat, high, low, ih]
    cases bit <;> rfl

theorem toNat_inj {bits others : List Bool} (length : bits.length = others.length) :
    toNat bits = toNat others ↔ bits = others := by
  constructor
  · intro same
    rw [← ofNat_toNat bits, ← ofNat_toNat others, length, same]
  · rintro rfl
    rfl

theorem toNat_lt (bits : List Bool) : toNat bits < 2 ^ bits.length := by
  have whole := toNat_ofNat bits.length (toNat bits)
  rw [ofNat_toNat] at whole
  exact whole ▸ Nat.mod_lt _ (Nat.two_pow_pos _)

theorem toNat_take (count : Nat) (bits : List Bool) :
    toNat (bits.take count) = toNat bits / 2 ^ (bits.length - count) := by
  have whole := toNat_append (bits.take count) (bits.drop count)
  have below := toNat_lt (bits.drop count)
  rw [List.take_append_drop] at whole
  rw [List.length_drop] at whole below
  rw [whole, Nat.mul_comm, Nat.mul_add_div (Nat.two_pow_pos _), Nat.div_eq_of_lt below, Nat.add_zero]

section Digits

variable {width : Nat} {digits : List Nat}

theorem length_flatMap_ofNat (width : Nat) (digits : List Nat) :
    (digits.flatMap (ofNat width)).length = width * digits.length := by
  induction digits with
  | nil => rfl
  | cons digit digits ih =>
    rw [List.flatMap_cons, List.length_append, length_ofNat, ih, List.length_cons, Nat.mul_succ]
    exact Nat.add_comm _ _

/-- The bits of some digits are the number that the digits are. -/
theorem toNat_flatMap_ofNat (small : ∀ d ∈ digits, d < 2 ^ width) :
    toNat (digits.flatMap (ofNat width)) = number (2 ^ width) digits := by
  induction digits with
  | nil => rfl
  | cons digit digits ih =>
    obtain ⟨first, others⟩ := List.forall_mem_cons.mp small
    rw [List.flatMap_cons, toNat_append, toNat_ofNat, Nat.mod_eq_of_lt first, ih others, number_cons,
      length_flatMap_ofNat, Nat.pow_mul]

end Digits

section Pieces

variable {size count : Nat} {bits : List Bool}

theorem length_pieces : (pieces size count bits).length = count := by
  induction count generalizing bits with
  | zero => rfl
  | succ count ih => simp [pieces, ih]

theorem pieces_append {piece : List Bool} (length : piece.length = size) :
    pieces size (count + 1) (piece ++ bits) = piece :: pieces size count bits := by
  rw [pieces, List.take_left' length, List.drop_left' length]

theorem length_of_mem_pieces (length : bits.length = size * count) {piece : List Bool}
    (member : piece ∈ pieces size count bits) : piece.length = size := by
  induction count generalizing bits with
  | zero => cases member
  | succ count ih =>
    rw [Nat.mul_succ] at length
    rcases List.mem_cons.mp member with rfl | later
    · rw [List.length_take]
      omega
    · refine ih ?_ later
      rw [List.length_drop]
      omega

/-- The pieces, each written anew as its number, are the bits again. -/
theorem flatMap_pieces (length : bits.length = size * count) :
    ((pieces size count bits).map toNat).flatMap (ofNat size) = bits := by
  induction count generalizing bits with
  | zero =>
    rw [List.length_eq_zero_iff.mp length]
    rfl
  | succ count ih =>
    rw [Nat.mul_succ] at length
    have first : (bits.take size).length = size := by
      rw [List.length_take]
      omega
    have others : (bits.drop size).length = size * count := by
      rw [List.length_drop]
      omega
    have again := ofNat_toNat (bits.take size)
    rw [first] at again
    rw [pieces, List.map_cons, List.flatMap_cons, again, ih others, List.take_append_drop]

/-- Digits written as bits are found again piece by piece. -/
theorem pieces_flatMap {digits : List Nat} (small : ∀ d ∈ digits, d < 2 ^ size) :
    (pieces size digits.length (digits.flatMap (ofNat size))).map toNat = digits := by
  induction digits with
  | nil => rfl
  | cons digit digits ih =>
    obtain ⟨first, others⟩ := List.forall_mem_cons.mp small
    rw [List.flatMap_cons, List.length_cons, pieces_append (length_ofNat _ _), List.map_cons,
      toNat_ofNat, Nat.mod_eq_of_lt first, ih others]

end Pieces

theorem toNat_lt_of_mem (bytes : Bytes) : ∀ d ∈ bytes.map UInt8.toNat, d < 2 ^ 8 := by
  intro d member
  obtain ⟨b, -, rfl⟩ := List.mem_map.mp member
  exact b.toNat_lt

theorem ofBytes_eq (bytes : Bytes) : ofBytes bytes = (bytes.map UInt8.toNat).flatMap (ofNat 8) := by
  rw [ofBytes, List.flatMap_map]

theorem length_ofBytes (bytes : Bytes) : (ofBytes bytes).length = 8 * bytes.length := by
  rw [ofBytes_eq, length_flatMap_ofNat, List.length_map]

theorem toNat_ofBytes (bytes : Bytes) :
    toNat (ofBytes bytes) = number 256 (bytes.map UInt8.toNat) := by
  rw [ofBytes_eq]
  exact toNat_flatMap_ofNat (toNat_lt_of_mem bytes)

theorem toBytes_ofBytes (bytes : Bytes) : toBytes (ofBytes bytes) = bytes := by
  have again := congrArg (List.map UInt8.ofNat) (pieces_flatMap (toNat_lt_of_mem bytes))
  have count : (ofBytes bytes).length / 8 = bytes.length := by
    rw [length_ofBytes]
    omega
  rw [List.length_map, ← ofBytes_eq, List.map_map, List.map_map] at again
  rw [toBytes, count]
  simpa [Function.comp_def] using again

theorem ofBytes_toBytes {bits : List Bool} {count : Nat} (length : bits.length = 8 * count) :
    ofBytes (toBytes bits) = bits := by
  have whole : bits.length / 8 = count := by omega
  have again := flatMap_pieces length
  rw [ofBytes_eq, toBytes, whole, List.map_map, ← again]
  congr 1
  rw [again]
  refine List.map_congr_left fun piece member => ?_
  have below := toNat_lt piece
  rw [length_of_mem_pieces length member] at below
  exact Nat.mod_eq_of_lt below

end ChainFollower.Bits

import ChainFollower.Proofs.Hexadecimal
import ChainFollower.Proofs.Lowercase
import ChainFollower.Proofs.Mnemonics
import ChainFollower.Proofs.Passphrases
import ChainFollower.Proofs.Restricting
import ChainFollower.Proofs.Spacing

/-!
Seeds as users type them. Just two forms are taken, hexadecimal digits and mnemonics, no text has
both, and reading undoes writing in each of them. What is read is what the wallet is made from.
-/

namespace ChainFollower

namespace Seed

/-- But for white space at its ends the text is hexadecimal digits for 16 to 64 bytes. -/
def TypedHex (input : String) (bytes : Bytes) : Prop :=
  Bytes.IsHex bytes (Text.trim input.toList) ∧ 16 ≤ bytes.length ∧ bytes.length ≤ 64

/-- In lower case the words of the text are a mnemonic of the entropy. -/
def TypedWords (input : String) (entropy : Bytes) : Prop :=
  Mnemonic.IsMnemonic ((Text.words input.toList).map (·.map lower)) entropy

theorem not_typedWords_of_isHex {input : String} {bytes entropy : Bytes}
    (hex : Bytes.IsHex bytes (Text.trim input.toList)) : ¬ TypedWords input entropy := by
  intro spoken
  have several := spoken.length.1
  rw [List.length_map, ← Text.words_trim] at several
  by_cases empty : Text.trim input.toList = []
  · rw [empty] at several
    contradiction
  · rw [Text.words_solid empty hex.solid] at several
    contradiction

/-- What reading a text comes to. What has the form of hexadecimal bytes is never read as words. -/
inductive Reads (input : String) : Except Problem Bytes → Prop where
  | empty (nothing : Text.trim input.toList = []) : Reads input (.error .empty)
  | hex {bytes : Bytes} (typed : TypedHex input bytes) : Reads input (.ok bytes)
  | misfit {bytes : Bytes} (some : Text.trim input.toList ≠ [])
      (hex : Bytes.IsHex bytes (Text.trim input.toList))
      (unfit : ¬ (16 ≤ bytes.length ∧ bytes.length ≤ 64)) :
      Reads input (.error (.hexLength bytes.length))
  | words {entropy : Bytes} (unhex : ∀ bytes, ¬ Bytes.IsHex bytes (Text.trim input.toList))
      (typed : TypedWords input entropy) : Reads input (.ok entropy)
  | unspoken {problem : Mnemonic.Problem} (some : Text.trim input.toList ≠ [])
      (unhex : ∀ bytes, ¬ Bytes.IsHex bytes (Text.trim input.toList))
      (refused : Mnemonic.decode ((Text.words input.toList).map (·.map lower)) = .error problem) :
      Reads input (.error (.mnemonic problem))

theorem reads_decode (input : String) : Reads input (decode input) := by
  by_cases nothing : Text.trim input.toList = []
  · rw [decode, nothing]
    exact .empty nothing
  have same : decode input = ofTrimmed (Text.trim input.toList) := by
    simp only [decode, List.isEmpty_iff, nothing, if_false]
  rw [same, ofTrimmed]
  cases read : Bytes.ofHex? (Text.trim input.toList) with
  | some bytes =>
    have hex := Bytes.ofHex?_eq_some.mp read
    dsimp only
    split
    · rename_i fits
      exact .hex ⟨hex, fits⟩
    · rename_i unfit
      exact .misfit nothing hex unfit
  | none =>
    have unhex : ∀ bytes, ¬ Bytes.IsHex bytes (Text.trim input.toList) := by
      intro bytes hex
      rw [Bytes.ofHex?_eq_some.mpr hex] at read
      cases read
    rw [Text.words_trim]
    cases known : Mnemonic.decode ((Text.words input.toList).map (·.map lower)) with
    | ok entropy => exact .words unhex (Mnemonic.decode_iff.mp known)
    | error problem => exact .unspoken nothing unhex known

section

variable {input : String} {bytes : Bytes}

theorem TypedHex.ne_nil (typed : TypedHex input bytes) : Text.trim input.toList ≠ [] := by
  obtain ⟨hex, least, -⟩ := typed
  intro nothing
  have length := hex.length
  rw [nothing, List.length_nil] at length
  omega

theorem TypedWords.ne_nil {entropy : Bytes} (typed : TypedWords input entropy) :
    Text.trim input.toList ≠ [] := by
  intro nothing
  have several := typed.length.1
  rw [Text.trim_eq_nil.mp nothing] at several
  contradiction

theorem decode_eq_ok : decode input = .ok bytes ↔ TypedHex input bytes ∨ TypedWords input bytes := by
  have reads := reads_decode input
  generalize decode input = result at reads
  cases reads with
  | empty nothing =>
    constructor
    · nofun
    · rintro (typed | typed)
      · exact absurd nothing typed.ne_nil
      · exact absurd nothing typed.ne_nil
  | hex typed =>
    constructor
    · rintro ⟨⟩
      exact .inl typed
    · rintro (typed' | typed')
      · rw [typed.1.unique typed'.1]
      · exact absurd typed' (not_typedWords_of_isHex typed.1)
  | misfit some hex unfit =>
    constructor
    · nofun
    · rintro (typed | typed)
      · exact absurd (hex.unique typed.1 ▸ typed.2) unfit
      · exact absurd typed (not_typedWords_of_isHex hex)
  | words unhex typed =>
    constructor
    · rintro ⟨⟩
      exact .inr typed
    · rintro (typed' | typed')
      · exact absurd typed'.1 (unhex _)
      · have one := Mnemonic.decode_iff.mpr typed
        exact congrArg Except.ok (Except.ok.inj (one.symm.trans (Mnemonic.decode_iff.mpr typed')))
  | unspoken some unhex refused =>
    constructor
    · nofun
    · rintro (typed | typed)
      · exact absurd typed.1 (unhex _)
      · rw [Mnemonic.decode_iff.mpr typed] at refused
        cases refused

/-- A text that is not hexadecimal is read as the entropy whose mnemonic its words are. -/
theorem words_eq_encode (typed : TypedWords input bytes) :
    (Text.words input.toList).map (·.map lower) = (Mnemonic.encode bytes).map String.toList :=
  typed.unique (Mnemonic.isMnemonic_encode typed.1)

theorem size_of_decode (read : decode input = .ok bytes) : 16 ≤ bytes.length ∧ bytes.length ≤ 64 := by
  rcases decode_eq_ok.mp read with typed | typed
  · exact typed.2
  · have length := typed.length
    omega

end

theorem decode_toHex {bytes : Bytes} (least : 16 ≤ bytes.length) (most : bytes.length ≤ 64) :
    decode bytes.toHex = .ok bytes := by
  have hex := Bytes.isHex_toHexChars bytes
  refine decode_eq_ok.mpr (.inl ⟨?_, least, most⟩)
  rwa [Bytes.toHex, String.toList_ofList, Text.trim_eq_self hex.solid]

def Mnemonic.spoken (entropy : Bytes) : String :=
  String.intercalate " " (encode entropy)

theorem isBlank_letter {c : Char} (letter : 97 ≤ c.toNat ∧ c.toNat ≤ 122) :
    Text.isBlank c = false := by
  simp only [Text.isBlank]
  grind

theorem lower_letter {c : Char} (letter : 97 ≤ c.toNat ∧ c.toNat ≤ 122) : lower c = c := by
  rw [lower, if_neg (by omega), if_neg (by omega)]

theorem decode_spoken {entropy : Bytes} (size : entropy.length ∈ [16, 20, 24, 28, 32]) :
    decode (Mnemonic.spoken entropy) = .ok entropy := by
  have encoded := Mnemonic.isMnemonic_encode size
  have words : Text.words (Mnemonic.spoken entropy).toList =
      (Mnemonic.encode entropy).map String.toList := by
    rw [Mnemonic.spoken, String.toList_intercalate]
    refine Text.words_intercalate fun word member => ?_
    obtain ⟨some, letters⟩ := encoded.letters word member
    exact ⟨some, fun c hc => isBlank_letter (letters c hc)⟩
  have same : ∀ word ∈ (Mnemonic.encode entropy).map String.toList, word.map lower = word := by
    intro word member
    have letters := (encoded.letters word member).2
    exact (List.map_congr_left fun c hc => lower_letter (letters c hc)).trans (List.map_id' word)
  refine decode_eq_ok.mpr (.inr ?_)
  rw [TypedWords, words, List.map_congr_left same, List.map_id']
  exact encoded

end Seed

namespace Follower

open Act

def createCalls (passphrase seed : String) : List Sight :=
  match Seed.decode seed with
  | .ok bytes => [.create Passphrase.insecurePublic (Bytes.ofString passphrase) bytes]
  | .error _ => []

theorem sights_saw (f : Follower) (sight : Sight) : (f.saw sight).sights = f.sights ++ [sight] := by
  simp [sights, saw, note, Happening.sight?]

theorem create_refused {seed : String} {problem : Seed.Problem}
    (refused : Seed.decode seed = .error problem) (passphrase : String) (f : Follower) :
    ((create passphrase seed).run f).1 = .error (.failed problem.toError) ∧
      ((create passphrase seed).run f).2.sights = f.sights := by
  unfold create
  rw [run_bind, run_update]
  dsimp only
  split
  · rename_i nothing
    have same : seed = "" := by simpa using nothing
    subst same
    cases refused
    exact ⟨rfl, rfl⟩
  · rw [refused]
    exact ⟨rfl, rfl⟩

theorem create_decoded {seed : String} {bytes : Bytes} (read : Seed.decode seed = .ok bytes)
    (passphrase : String) (f : Follower) :
    ((create passphrase seed).run f).2.sights =
      f.sights ++ [.create Passphrase.insecurePublic (Bytes.ofString passphrase) bytes] := by
  have answers := answers_createWallet Passphrase.insecurePublic (Bytes.ofString passphrase) bytes
    (f.log .creating)
  have asked := sights_saw (f.log .creating)
    (.create Passphrase.insecurePublic (Bytes.ofString passphrase) bytes)
  unfold create
  rw [run_bind, run_update]
  dsimp only
  split
  · rename_i nothing
    have same : seed = "" := by simpa using nothing
    subst same
    cases read
  · rw [read]
    dsimp only
    rw [run_bind]
    revert answers
    generalize (createWallet _ _ bytes).run (f.log .creating) = result
    intro answers
    cases answers with
    | done => exact asked
    | refused e => exact asked
    | panicked text => exact asked

end Follower

namespace Seed

/-- What a typed text can be as a seed. -/
structure Decodes (input : String) : Prop where
  accepts : ∀ bytes, decode input = .ok bytes ↔ TypedHex input bytes ∨ TypedWords input bytes
  /-- In which way the text as a whole is put in lower case makes no difference. -/
  lowered : ∀ lowered : List Char → List Char, (∀ s, Lowercases s (lowered s)) → ∀ entropy,
    TypedWords input entropy ↔
      Mnemonic.IsMnemonic (Text.words (lowered ([' '].intercalate (Text.words input.toList)))) entropy
  exclusive : ∀ bytes entropy, ¬ (TypedHex input bytes ∧ TypedWords input entropy)
  sizes : ∀ bytes, decode input = .ok bytes → 16 ≤ bytes.length ∧ bytes.length ≤ 64
  /-- What is no hexadecimal text is just the mnemonic of what it is read as. -/
  spoken : ∀ entropy, decode input = .ok entropy →
    (∀ bytes, ¬ Bytes.IsHex bytes (Text.trim input.toList)) →
      (Text.words input.toList).map (·.map lower) = (Mnemonic.encode entropy).map String.toList
  empty : Text.trim input.toList = [] ↔
    ∃ problem, decode input = .error problem ∧ problem.toError = .emptySeed
  invalid : (Text.trim input.toList ≠ [] ∧
      ∀ bytes, ¬ TypedHex input bytes ∧ ¬ TypedWords input bytes) ↔
    ∃ problem reason, decode input = .error problem ∧ problem.toError = .invalidSeed reason
  /-- The loader is called once with the bytes that were read, or not at all. -/
  creates : ∀ passphrase f, ((Follower.create passphrase input).run f).2.sights =
    f.sights ++ Follower.createCalls passphrase input
  fails : ∀ problem, decode input = .error problem → ∀ passphrase f,
    ((Follower.create passphrase input).run f).1 = .error (.failed problem.toError)

theorem toError_ne_empty {problem : Problem} (other : problem ≠ .empty) :
    ∃ reason, problem.toError = .invalidSeed reason := by
  cases problem with
  | empty => exact absurd rfl other
  | hexLength count => exact ⟨_, rfl⟩
  | mnemonic problem => exact ⟨_, rfl⟩

theorem decode_eq_empty {input : String} :
    decode input = .error .empty ↔ Text.trim input.toList = [] := by
  have reads := reads_decode input
  generalize decode input = result at reads
  cases reads with
  | empty nothing => exact ⟨fun _ => nothing, fun _ => rfl⟩
  | hex typed => exact ⟨nofun, fun nothing => absurd nothing typed.ne_nil⟩
  | misfit some => exact ⟨nofun, fun nothing => absurd nothing some⟩
  | words unhex typed => exact ⟨nofun, fun nothing => absurd nothing typed.ne_nil⟩
  | unspoken some => exact ⟨nofun, fun nothing => absurd nothing some⟩

theorem decodes (input : String) : Decodes input where
  accepts bytes := decode_eq_ok
  lowered lowered lowers entropy := by
    rw [TypedWords, ← Mnemonic.decode_iff, ← Mnemonic.decode_iff, decode_lowered lowers]
  exclusive bytes entropy := fun ⟨hex, words⟩ => not_typedWords_of_isHex hex.1 words
  sizes bytes := size_of_decode
  spoken entropy read unhex := by
    rcases decode_eq_ok.mp read with typed | typed
    · exact absurd typed.1 (unhex entropy)
    · exact words_eq_encode typed
  empty := by
    rw [← decode_eq_empty]
    constructor
    · intro refused
      exact ⟨_, refused, rfl⟩
    · rintro ⟨problem, refused, same⟩
      by_cases empty : problem = .empty
      · rwa [empty] at refused
      · obtain ⟨reason, other⟩ := toError_ne_empty empty
        cases same.symm.trans other
  invalid := by
    constructor
    · rintro ⟨some, untyped⟩
      cases read : decode input with
      | ok bytes =>
        have typed := decode_eq_ok.mp read
        exact (typed.elim (untyped bytes).1 (untyped bytes).2).elim
      | error problem =>
        have other : problem ≠ .empty := by
          rintro rfl
          exact some (decode_eq_empty.mp read)
        obtain ⟨reason, same⟩ := toError_ne_empty other
        exact ⟨problem, reason, rfl, same⟩
    · rintro ⟨problem, reason, refused, same⟩
      refine ⟨fun nothing => ?_, fun bytes => not_or.mp fun typed => ?_⟩
      · rw [decode_eq_empty.mpr nothing] at refused
        cases refused
        cases same
      · rw [decode_eq_ok.mpr typed] at refused
        cases refused
  creates passphrase f := by
    rw [Follower.createCalls]
    cases read : decode input with
    | ok bytes => exact Follower.create_decoded read passphrase f
    | error problem =>
      exact (Follower.create_refused read passphrase f).2.trans (List.append_nil _).symm
  fails problem refused passphrase f := (Follower.create_refused refused passphrase f).1

/-- Reading a seed takes the two forms and nothing else, and undoes writing bytes in hexadecimal and
writing down the mnemonic of an entropy. -/
theorem seed_formats (input : String) (bytes : Bytes) :
    Decodes input ∧
      (16 ≤ bytes.length → bytes.length ≤ 64 → decode bytes.toHex = .ok bytes) ∧
      (bytes.length ∈ [16, 20, 24, 28, 32] →
        Mnemonic.IsMnemonic ((Mnemonic.encode bytes).map String.toList) bytes ∧
          decode (Mnemonic.spoken bytes) = .ok bytes) :=
  ⟨decodes input, decode_toHex, fun size => ⟨Mnemonic.isMnemonic_encode size, decode_spoken size⟩⟩

/-- Sixteen zeros are eleven times the first word of the list and, for the checksum, the fourth. -/
theorem seed_formats_zeros :
    let zeros : Bytes := List.replicate 16 0
    let words := "abandon abandon abandon abandon abandon abandon abandon abandon abandon abandon " ++
      "abandon about"
    zeros.length ∈ [16, 20, 24, 28, 32] ∧ Mnemonic.spoken zeros = words ∧
      decode words = .ok zeros ∧ decode "00000000000000000000000000000000" = .ok zeros ∧
      ∀ passphrase f, ((Follower.create passphrase words).run f).2.sights =
        f.sights ++ [.create Passphrase.insecurePublic (Bytes.ofString passphrase) zeros] := by
  intro zeros words
  have size : zeros.length ∈ [16, 20, 24, 28, 32] := by decide
  have written : Mnemonic.spoken zeros = words := by decide +kernel
  obtain ⟨decodes, hex, spoken⟩ := seed_formats words zeros
  have read : decode words = .ok zeros := written ▸ (spoken size).2
  refine ⟨size, written, read, hex (by decide) (by decide), fun passphrase f => ?_⟩
  rw [decodes.creates, Follower.createCalls, read]

end Seed

end ChainFollower

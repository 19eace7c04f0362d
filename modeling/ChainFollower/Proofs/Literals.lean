import ChainFollower.Proofs.Numerals

/-!
The grammar of IP literals, apart from the readers, and what the readers take of a text: a literal of
that grammar in front of what cannot go on with it.
-/

namespace ChainFollower

@[simp] theorem Reader.char_eq_some {c : Char} {s rest : List Char} :
    Reader.char c s = some ((), rest) ↔ s = c :: rest := by
  cases s with
  | nil => simp [Reader.char]
  | cons x s =>
    simp only [Reader.char]
    split
    · rename_i same
      simp [same]
    · rename_i other
      simp [other]

theorem Reader.whole_eq_some {α : Type} {read : Reader α} {s : List Char} {value : α} :
    Reader.whole read s = some value ↔ read s = some (value, []) := by
  simp only [Reader.whole]
  split <;> grind

namespace Ipv4

theorem octet_eq_some {s rest : List Char} {value : UInt8} :
    octet s = some (value, rest) ↔
      s = Text.decimal value.toNat ++ rest ∧ Text.Stops Text.isDigit rest := by
  simp only [octet]
  constructor
  · intro read
    split at read
    · cases read
    · rename_i plain
      split at read
      · rename_i n worth
        cases read
        obtain ⟨cut, -, stops⟩ := Text.span_iff.mp ⟨rfl, rfl⟩
        obtain ⟨spells, small⟩ := Text.decimal?_eq_some.mp worth
        obtain ⟨zeros, spelled⟩ := Text.spells_ten_iff.mp spells
        have fits : (UInt8.ofNat n).toNat = n := by
          simp only [UInt8.toNat_ofNat']
          omega
        rw [fits]
        refine ⟨?_, stops⟩
        cases zeros with
        | zero => simpa [spelled] using cut
        | succ zeros =>
          have some : 0 < (Text.decimal n).length := List.length_pos_iff.mpr Nat.toDigits_ne_nil
          refine absurd (Or.inr ?_) plain
          simp [spelled, List.replicate_succ]
          omega
      · cases read
  · rintro ⟨cut, stops⟩
    have spells := Text.spells_decimal value.toNat
    have range : value.toNat < 256 := value.toNat_lt
    obtain ⟨taken, left⟩ := Text.span_iff.mpr ⟨cut, (Text.spells_ten.mp spells).2.1, stops⟩
    have short : (Text.decimal value.toNat).length ≤ 3 :=
      (Nat.length_toDigits_le_iff (by omega) (by omega)).mpr (by omega)
    rw [taken, left, if_neg, Text.decimal?_eq_some.mpr ⟨spells, by omega⟩]
    · simp
    · rintro (long | ⟨several, zero⟩)
      · omega
      · obtain ⟨rest, written⟩ := List.head?_eq_some_iff.mp zero
        refine Text.decimal_ne_zero_cons ?_ written
        rintro rfl
        simp [written] at several

theorem dotted_eq_some {s rest : List Char} {value : UInt8} :
    dotted s = some (value, rest) ↔
      s = '.' :: Text.decimal value.toNat ++ rest ∧ Text.Stops Text.isDigit rest := by
  simp only [dotted]
  cases dot : Reader.char '.' s with
  | none =>
    constructor
    · intro read
      cases read
    · rintro ⟨cut, -⟩
      have found := Reader.char_eq_some.mpr cut
      cases dot.symm.trans found
  | some taken =>
    obtain ⟨⟨⟩, body⟩ := taken
    obtain rfl := Reader.char_eq_some.mp dot
    simp [octet_eq_some]

theorem read_eq_some {s rest : List Char} {ip : Ipv4} :
    Ipv4.read s = some (ip, rest) ↔ s = ip.render ++ rest ∧ Text.Stops Text.isDigit rest := by
  have dot : ∀ s, Text.Stops Text.isDigit ('.' :: s) := by
    intro s c first
    cases first
    rfl
  simp only [Ipv4.read]
  constructor
  · intro read
    split at read <;> try cases read
    rename_i a _ first
    split at read <;> try cases read
    rename_i b _ second
    split at read <;> try cases read
    rename_i c _ third
    split at read <;> cases read
    rename_i d fourth
    obtain ⟨rfl, -⟩ := octet_eq_some.mp first
    obtain ⟨rfl, -⟩ := dotted_eq_some.mp second
    obtain ⟨rfl, -⟩ := dotted_eq_some.mp third
    obtain ⟨rfl, stops⟩ := dotted_eq_some.mp fourth
    exact ⟨by simp [render], stops⟩
  · rintro ⟨rfl, stops⟩
    have first (v : UInt8) (s : List Char) :
        octet (Text.decimal v.toNat ++ '.' :: s) = some (v, '.' :: s) :=
      octet_eq_some.mpr ⟨rfl, dot s⟩
    have inner (v : UInt8) (s : List Char) :
        dotted ('.' :: (Text.decimal v.toNat ++ '.' :: s)) = some (v, '.' :: s) :=
      dotted_eq_some.mpr ⟨rfl, dot s⟩
    have last : dotted ('.' :: (Text.decimal ip.d.toNat ++ rest)) = some (ip.d, rest) :=
      dotted_eq_some.mpr ⟨rfl, stops⟩
    simp only [render, List.append_assoc, List.cons_append, first, inner, last]

end Ipv4

namespace Ipv6

def IsGroup (g : UInt16) (s : List Char) : Prop :=
  Text.Spells 16 g.toNat s ∧ s.length ≤ 4

/-- Groups divided by colons; where dots are allowed, the last two may be an IPv4 address. -/
inductive Groups (dots : Bool) : List UInt16 → List Char → Prop
  | one {g : UInt16} {s : List Char} : IsGroup g s → Groups dots [g] s
  | ipv4 (ip : Ipv4) : dots = true → Groups dots ip.groups ip.render
  | cons {g : UInt16} {s : List Char} {gs : List UInt16} {t : List Char} :
      IsGroup g s → Groups dots gs t → Groups dots (g :: gs) (s ++ ':' :: t)

def Part (dots : Bool) (gs : List UInt16) (s : List Char) : Prop :=
  gs = [] ∧ s = [] ∨ Groups dots gs s

/-- The literals of an address: its eight groups, or fewer around a `::` that stands for one zero or
more. -/
inductive Spells (ip : Ipv6) : List Char → Prop
  | full {s : List Char} : Groups true ip.groups s → Spells ip s
  | short {front back : List UInt16} {s t : List Char} {zeros : Nat} :
      Part false front s → Part true back t →
      ip.groups = front ++ List.replicate (zeros + 1) 0 ++ back →
      Spells ip (s ++ ':' :: ':' :: t)

/-- Nothing in front of the text goes on with a group, and no group follows behind a colon. -/
def Ends (rest : List Char) : Prop :=
  Text.Stops Text.isHexDigit rest ∧ rest.head? ≠ some '.' ∧
    ∀ more, rest = ':' :: more → ∃ still, more = ':' :: still

theorem ends_cons {c : Char} {rest : List Char} (noHex : Text.isHexDigit c = false)
    (noDot : c ≠ '.') (noColon : c ≠ ':') : Ends (c :: rest) := by
  refine ⟨?_, by simpa using noDot, fun more cut => ?_⟩
  · intro d first
    cases first
    exact noHex
  · exact absurd (List.cons.inj cut).1 noColon

theorem group_eq_some {s rest : List Char} {g : UInt16} :
    group s = some (g, rest) ↔
      ∃ digits, s = digits ++ rest ∧ IsGroup g digits ∧ Text.Stops Text.isHexDigit rest := by
  simp only [group]
  constructor
  · intro read
    split at read
    · cases read
    · rename_i fits
      rw [not_or, List.isEmpty_iff] at fits
      cases read
      obtain ⟨cut, all, stops⟩ := (Text.span_iff (p := Text.isHexDigit) (s := s)).mp ⟨rfl, rfl⟩
      have spells := Text.spells_sixteen.mpr ⟨fits.1, all, rfl⟩
      have small := spells.lt_pow (by omega)
      have short : (s.takeWhile Text.isHexDigit).length ≤ 4 := by omega
      refine ⟨_, cut, ⟨?_, short⟩, stops⟩
      rwa [UInt16.toNat_ofNat', Nat.mod_eq_of_lt]
      exact small.trans_le (Nat.pow_le_pow_right (by omega) short)
  · rintro ⟨digits, cut, ⟨spells, short⟩, stops⟩
    obtain ⟨some, all, worth⟩ := Text.spells_sixteen.mp spells
    obtain ⟨taken, left⟩ := Text.span_iff.mpr ⟨cut, all, stops⟩
    rw [taken, left, if_neg, worth, UInt16.ofNat_toNat]
    rw [not_or, List.isEmpty_iff]
    exact ⟨some, by omega⟩

def lead (first : Bool) : List Char :=
  if first then [] else [':']

theorem behindColon_eq_some {first : Bool} {s body : List Char} :
    behindColon first s = some body ↔ s = lead first ++ body := by
  cases first with
  | true => simp [behindColon, lead]
  | false =>
    simp only [behindColon, lead, Bool.false_eq_true, if_false, List.singleton_append]
    constructor
    · intro read
      split at read
      · rename_i taken rest found
        cases read
        exact Reader.char_eq_some.mp found
      · cases read
    · intro cut
      rw [Reader.char_eq_some.mpr cut]

/-- A group is no dotted address, whatever stands behind it but a dot. -/
theorem readIpv4_group {g : UInt16} {s rest : List Char} (isGroup : IsGroup g s)
    (stops : Text.Stops Text.isHexDigit rest) (noDot : rest.head? ≠ some '.') :
    Ipv4.read (s ++ rest) = none := by
  rw [Option.eq_none_iff_forall_ne_some]
  rintro ⟨ip, left⟩ read
  obtain ⟨same, -⟩ := Ipv4.read_eq_some.mp read
  obtain ⟨-, all, -⟩ := Text.spells_sixteen.mp isGroup.1
  have hex : ∀ c ∈ Text.decimal ip.a.toNat, Text.isHexDigit c = true := by
    intro c hc
    exact Text.isHexDigit_of_isDigit ((Text.spells_ten.mp (Text.spells_decimal _)).2.1 c hc)
  have dot : Text.Stops Text.isHexDigit ('.' :: (Text.decimal ip.b.toNat ++
      '.' :: Text.decimal ip.c.toNat ++ '.' :: Text.decimal ip.d.toNat ++ left)) := by
    intro c first
    cases first
    rfl
  obtain ⟨-, here⟩ := Text.span_iff.mpr ⟨rfl, all, stops⟩
  obtain ⟨-, there⟩ := Text.span_iff.mpr ⟨rfl, hex, dot⟩
  rw [same] at here
  simp only [Ipv4.render, List.append_assoc, List.cons_append] at here there
  rw [here] at there
  exact noDot (by rw [there]; rfl)

theorem readGroups_sound {limit : Nat} {first flag : Bool} {s rest : List Char} {gs : List UInt16}
    (read : readGroups limit first s = (gs, flag, rest)) :
    gs.length ≤ limit ∧
      (gs = [] ∧ flag = false ∧ s = rest ∨ ∃ t, s = lead first ++ t ++ rest ∧ Groups flag gs t) := by
  induction limit generalizing first s gs with
  | zero =>
    cases read
    exact ⟨le_rfl, .inl ⟨rfl, rfl, rfl⟩⟩
  | succ limit ih =>
    rw [readGroups] at read
    split at read
    · cases read
      exact ⟨by simp, .inl ⟨rfl, rfl, rfl⟩⟩
    rename_i body behind
    obtain rfl := behindColon_eq_some.mp behind
    split at read
    · rename_i ip left taken
      cases read
      split at taken
      · cases taken
      · obtain ⟨rfl, -⟩ := Ipv4.read_eq_some.mp taken
        refine ⟨?_, .inr ⟨ip.render, by simp, .ipv4 ip rfl⟩⟩
        simp only [Ipv4.groups, List.length_cons, List.length_nil]
        omega
    · split at read
      · cases read
        exact ⟨by simp, .inl ⟨rfl, rfl, rfl⟩⟩
      · rename_i g left taken
        obtain ⟨digits, rfl, isGroup, -⟩ := group_eq_some.mp taken
        obtain ⟨more, after⟩ : ∃ more, readGroups limit false left = more := ⟨_, rfl⟩
        rw [after] at read
        cases read
        obtain ⟨short, ⟨none, plain, same⟩ | ⟨t, same, groups⟩⟩ := ih after
        · refine ⟨by simpa using short, .inr ⟨digits, by simp [same], ?_⟩⟩
          rw [none]
          exact .one isGroup
        · exact ⟨by simpa using short, .inr ⟨digits ++ ':' :: t, by simp [same, lead],
            .cons isGroup groups⟩⟩

/-- Nothing can be read as a group or a dotted address where no digit stands. -/
theorem readGroups_stops {limit : Nat} {first : Bool} {s body : List Char}
    (behind : behindColon first s = some body) (stops : Text.Stops Text.isHexDigit body) :
    readGroups (limit + 1) first s = ([], false, s) := by
  have noIpv4 : Ipv4.read body = none := by
    rw [Option.eq_none_iff_forall_ne_some]
    rintro ⟨ip, left⟩ read
    obtain ⟨rfl, -⟩ := Ipv4.read_eq_some.mp read
    obtain ⟨some, digits, -⟩ := Text.spells_ten.mp (Text.spells_decimal ip.a.toNat)
    simp only [Ipv4.render, List.append_assoc] at stops
    exact stops.ne_digits some fun c hc => Text.isHexDigit_of_isDigit (digits c hc)
  have noGroup : group body = none := by
    rw [Option.eq_none_iff_forall_ne_some]
    rintro ⟨g, left⟩ read
    obtain ⟨digits, rfl, ⟨spells, -⟩, -⟩ := group_eq_some.mp read
    obtain ⟨some, all, -⟩ := Text.spells_sixteen.mp spells
    exact stops.ne_digits some all
  simp only [readGroups, behind, noIpv4, noGroup, ite_self]

theorem readGroups_ends {limit : Nat} {first : Bool} {rest : List Char} (ends : Ends rest) :
    readGroups limit first rest = ([], false, rest) := by
  obtain ⟨stops, -, doubled⟩ := ends
  cases limit with
  | zero => rfl
  | succ limit =>
    cases behind : behindColon first rest with
    | none => rw [readGroups, behind]
    | some body =>
      refine readGroups_stops behind ?_
      have cut := behindColon_eq_some.mp behind
      cases first with
      | true =>
        obtain rfl : rest = body := cut
        exact stops
      | false =>
        obtain ⟨still, rfl⟩ := doubled body cut
        intro c first
        cases first
        rfl

theorem readGroups_group {limit : Nat} {first : Bool} {g : UInt16} {s rest : List Char}
    (isGroup : IsGroup g s) (stops : Text.Stops Text.isHexDigit rest)
    (noDot : rest.head? ≠ some '.') :
    readGroups (limit + 1) first (lead first ++ s ++ rest) =
      (g :: (readGroups limit false rest).1, (readGroups limit false rest).2) := by
  have behind : behindColon first (lead first ++ s ++ rest) = some (s ++ rest) :=
    behindColon_eq_some.mpr (List.append_assoc ..)
  have taken : group (s ++ rest) = some (g, rest) := group_eq_some.mpr ⟨s, rfl, isGroup, stops⟩
  simp only [readGroups, behind, readIpv4_group isGroup stops noDot, taken, ite_self]

theorem readGroups_complete {dots : Bool} {gs : List UInt16} {t : List Char}
    (groups : Groups dots gs t) (limit : Nat) (first : Bool) {rest : List Char}
    (fits : gs.length ≤ limit) (ends : Ends rest) :
    ∃ flag, readGroups limit first (lead first ++ t ++ rest) = (gs, flag, rest) ∧
      (dots = false → flag = false) := by
  induction groups generalizing limit first with
  | one isGroup =>
    obtain ⟨limit, rfl⟩ : ∃ l, limit = l + 1 := Nat.exists_eq_add_one.mpr fits
    rw [readGroups_group isGroup ends.1 ends.2.1, readGroups_ends ends]
    exact ⟨false, rfl, fun _ => rfl⟩
  | ipv4 ip dotted =>
    obtain ⟨limit, rfl⟩ : ∃ l, limit = l + 2 := ⟨limit - 2, by simp [Ipv4.groups] at fits; omega⟩
    have behind : behindColon first (lead first ++ ip.render ++ rest) = some (ip.render ++ rest) :=
      behindColon_eq_some.mpr (List.append_assoc ..)
    have stops : Text.Stops Text.isDigit rest := by
      intro c first
      have noHex := ends.1 c first
      cases digit : Text.isDigit c with
      | false => rfl
      | true => exact absurd (Text.isHexDigit_of_isDigit digit) (by simp [noHex])
    have taken : Ipv4.read (ip.render ++ rest) = some (ip, rest) :=
      Ipv4.read_eq_some.mpr ⟨rfl, stops⟩
    refine ⟨true, ?_, fun plain => absurd dotted (by simp [plain])⟩
    rw [readGroups, behind]
    simp [taken]
  | @cons g s gs t isGroup more ih =>
    obtain ⟨limit, rfl⟩ : ∃ l, limit = l + 1 := ⟨limit - 1, by simp at fits; omega⟩
    obtain ⟨flag, read, plain⟩ := ih limit false (by simpa using fits)
    have colon : Text.Stops Text.isHexDigit (lead false ++ t ++ rest) := by
      intro c first
      cases first
      rfl
    have split : lead first ++ (s ++ ':' :: t) ++ rest =
        lead first ++ s ++ (lead false ++ t ++ rest) := by
      simp [lead]
    rw [split, readGroups_group isGroup colon (by simp [lead]), read]
    exact ⟨flag, rfl, plain⟩

theorem Groups.dotted {dots : Bool} {gs : List UInt16} {s : List Char} (groups : Groups dots gs s) :
    Groups true gs s := by
  induction groups with
  | one isGroup => exact .one isGroup
  | ipv4 ip _ => exact .ipv4 ip rfl
  | cons isGroup _ ih => exact .cons isGroup ih

theorem ofGroups?_eq_some {groups : List UInt16} {ip : Ipv6} :
    ofGroups? groups = some ip ↔ groups = ip.groups := by
  obtain ⟨own, eight⟩ := ip
  simp only [ofGroups?]
  split
  · simp
  · rename_i other
    constructor
    · intro none
      cases none
    · rintro rfl
      exact absurd eight other

theorem readGroups_part_sound {limit : Nat} {flag : Bool} {s rest : List Char} {gs : List UInt16}
    (read : readGroups limit true s = (gs, flag, rest)) :
    gs.length ≤ limit ∧ ∃ t, s = t ++ rest ∧ Part flag gs t := by
  obtain ⟨fits, ⟨rfl, rfl, rfl⟩ | ⟨t, cut, groups⟩⟩ := readGroups_sound read
  · exact ⟨fits, [], rfl, .inl ⟨rfl, rfl⟩⟩
  · exact ⟨fits, t, cut, .inr groups⟩

theorem readGroups_part {dots : Bool} {gs : List UInt16} {t : List Char} (part : Part dots gs t)
    (limit : Nat) {rest : List Char} (fits : gs.length ≤ limit) (ends : Ends rest) :
    ∃ flag, readGroups limit true (t ++ rest) = (gs, flag, rest) ∧
      (dots = false → flag = false) := by
  obtain ⟨rfl, rfl⟩ | groups := part
  · exact ⟨false, readGroups_ends ends, fun _ => rfl⟩
  · exact readGroups_complete groups _ true fits ends

theorem Part.dotted {dots : Bool} {gs : List UInt16} {s : List Char} (part : Part dots gs s) :
    Part true gs s :=
  part.imp_right Groups.dotted

/-- What is read off the front of a text is a literal. -/
theorem read_sound {s rest : List Char} {ip : Ipv6} (read : Ipv6.read s = some (ip, rest)) :
    ∃ text, s = text ++ rest ∧ ip.Spells text := by
  obtain ⟨front, flag, behind, head⟩ : ∃ gs flag left, readGroups 8 true s = (gs, flag, left) :=
    ⟨_, _, _, rfl⟩
  obtain ⟨fits, t, rfl, part⟩ := readGroups_part_sound head
  simp only [Ipv6.read, head] at read
  split at read
  · rename_i eight
    obtain ⟨ip', whole, same⟩ := Option.map_eq_some_iff.mp read
    cases same
    obtain rfl := ofGroups?_eq_some.mp whole
    obtain ⟨none, -⟩ | groups := part.dotted
    · simp [none] at eight
    · exact ⟨t, rfl, .full groups⟩
  split at read
  · cases read
  rename_i fewer plain
  obtain rfl : flag = false := by simpa using plain
  split at read
  · rename_i more
    obtain ⟨back, dots, left, tail⟩ :
        ∃ gs dots left, readGroups (7 - front.length) true more = (gs, dots, left) :=
      ⟨_, _, _, rfl⟩
    obtain ⟨backFits, u, rfl, backPart⟩ := readGroups_part_sound tail
    simp only [tail] at read
    obtain ⟨ip', whole, same⟩ := Option.map_eq_some_iff.mp read
    cases same
    obtain ⟨zeros, between⟩ : ∃ zeros, 8 - front.length - back.length = zeros + 1 :=
      ⟨7 - front.length - back.length, by omega⟩
    rw [between] at whole
    exact ⟨t ++ ':' :: ':' :: u, by simp,
      .short part backPart.dotted (ofGroups?_eq_some.mp whole).symm⟩
  · cases read

/-- A literal is read to its end, unless what stands behind it could go on with it. -/
theorem read_complete {text rest : List Char} {ip : Ipv6} (spells : ip.Spells text)
    (ends : Ends rest) : Ipv6.read (text ++ rest) = some (ip, rest) := by
  cases spells with
  | full groups =>
    obtain ⟨flag, read, -⟩ := readGroups_complete groups _ true ip.eight.le ends
    simp only [lead, if_true, List.nil_append] at read
    simp only [Ipv6.read, read, ip.eight, if_true, ofGroups?_eq_some.mpr rfl, Option.map_some]
  | @short front back s t zeros frontPart backPart same =>
    have eight : front.length + (zeros + 1) + back.length = 8 := by
      simpa [same, Nat.add_assoc] using ip.eight
    have colons : Ends (':' :: ':' :: (t ++ rest)) := by
      refine ⟨?_, by simp, fun more cut => ⟨t ++ rest, by simpa using cut.symm⟩⟩
      intro c first
      cases first
      rfl
    obtain ⟨flag, head, plain⟩ := readGroups_part frontPart 8 (by omega) colons
    obtain ⟨dots, tail, -⟩ := readGroups_part backPart (7 - front.length) (by omega) ends
    have between : 8 - front.length - back.length = zeros + 1 := by omega
    simp only [List.append_assoc s, List.cons_append, Ipv6.read, head]
    rw [if_neg (by omega), if_neg (by simp [plain rfl])]
    simp only [tail, between, ofGroups?_eq_some.mpr same.symm, Option.map_some]

theorem whole_eq_some {s : List Char} {ip : Ipv6} :
    Reader.whole Ipv6.read s = some ip ↔ ip.Spells s := by
  rw [Reader.whole_eq_some]
  constructor
  · intro read
    obtain ⟨text, rfl, spells⟩ := read_sound read
    simpa using spells
  · intro spells
    have nothing : Ends [] := ⟨by simp [Text.Stops], by simp, by simp⟩
    simpa using read_complete spells nothing

end Ipv6

theorem Ipv4.whole_eq_some {s : List Char} {ip : Ipv4} :
    Reader.whole Ipv4.read s = some ip ↔ s = ip.render := by
  simp [Reader.whole_eq_some, read_eq_some, Text.Stops]

def IsLiteralChar (c : Char) : Prop :=
  Text.isHexDigit c = true ∨ c = ':' ∨ c = '.'

theorem Ipv4.characters (ip : Ipv4) : ∀ c ∈ ip.render, Text.isDigit c = true ∨ c = '.' := by
  have digit : ∀ n, ∀ c ∈ Text.decimal n, Text.isDigit c = true := fun n =>
    (Text.spells_ten.mp (Text.spells_decimal n)).2.1
  intro c hc
  simp only [render, List.mem_append, List.mem_cons] at hc
  have := digit ip.a.toNat c
  have := digit ip.b.toNat c
  have := digit ip.c.toNat c
  have := digit ip.d.toNat c
  tauto

theorem Ipv6.Groups.characters {dots : Bool} {gs : List UInt16} {s : List Char}
    (groups : Groups dots gs s) : ∀ c ∈ s, IsLiteralChar c := by
  induction groups with
  | one isGroup => exact fun c hc => .inl ((Text.spells_sixteen.mp isGroup.1).2.1 c hc)
  | ipv4 ip _ =>
    intro c hc
    rcases ip.characters c hc with digit | dot
    · exact .inl (Text.isHexDigit_of_isDigit digit)
    · exact .inr (.inr dot)
  | cons isGroup _ ih =>
    intro c hc
    rcases List.mem_append.mp hc with own | more
    · exact .inl ((Text.spells_sixteen.mp isGroup.1).2.1 c own)
    · rcases List.mem_cons.mp more with rfl | behind
      · exact .inr (.inl rfl)
      · exact ih c behind

/-- Groups are divided by colons, but for the last two if they stand as a dotted address. -/
theorem Ipv6.Groups.length_le {dots : Bool} {gs : List UInt16} {s : List Char}
    (groups : Groups dots gs s) : gs.length ≤ s.count ':' + 2 := by
  induction groups with
  | one _ => simp
  | ipv4 ip _ => simp [Ipv4.groups]
  | cons _ _ ih =>
    simp only [List.length_cons, List.count_append, List.count_cons_self]
    omega

theorem Ipv6.Spells.characters {ip : Ipv6} {s : List Char} (spells : ip.Spells s) :
    ∀ c ∈ s, IsLiteralChar c := by
  have part : ∀ {dots gs s}, Part dots gs s → ∀ c ∈ s, IsLiteralChar c := by
    rintro dots gs s (⟨-, rfl⟩ | groups)
    · simp
    · exact groups.characters
  cases spells with
  | full groups => exact groups.characters
  | short front back _ =>
    intro c hc
    rcases List.mem_append.mp hc with before | behind
    · exact part front c before
    · simp only [List.mem_cons] at behind
      rcases behind with rfl | rfl | after
      · exact .inr (.inl rfl)
      · exact .inr (.inl rfl)
      · exact part back c after

theorem Ipv6.Spells.colons {ip : Ipv6} {s : List Char} (spells : ip.Spells s) :
    2 ≤ s.count ':' := by
  cases spells with
  | full groups =>
    have several := groups.length_le
    rw [ip.eight] at several
    omega
  | short _ _ _ =>
    simp only [List.count_append, List.count_cons_self]
    omega

end ChainFollower

import ChainFollower.Proofs.Literals

/-!
The one literal that an IPv6 address is written as: with dots if it carries an IPv4 address, else with
`::` for its longest run of two zeros or more, the first of several, else with all its groups.
-/

namespace ChainFollower

theorem Ipv4.groups_ofGroups (high low : UInt16) : (Ipv4.ofGroups high low).groups = [high, low] := by
  have highRange := high.toNat_lt
  have lowRange := low.toNat_lt
  simp only [Ipv4.groups, Ipv4.ofGroups, List.cons.injEq, and_true]
  constructor <;>
    · apply UInt16.toNat_inj.mp
      simp only [UInt16.toNat_ofNat', UInt8.toNat_ofNat']
      omega

theorem Ipv4.ofGroups_of_groups {inner : Ipv4} {high low : UInt16}
    (groups : inner.groups = [high, low]) : Ipv4.ofGroups high low = inner := by
  obtain ⟨a, b, c, d⟩ := inner
  have ra := a.toNat_lt
  have rb := b.toNat_lt
  have rc := c.toNat_lt
  have rd := d.toNat_lt
  simp only [Ipv4.groups, List.cons.injEq, and_true] at groups
  obtain ⟨rfl, rfl⟩ := groups
  simp only [Ipv4.ofGroups, Ipv4.mk.injEq, ← UInt8.toNat_inj, UInt16.toNat_ofNat',
    UInt8.toNat_ofNat']
  omega

theorem Ipv4.groups_inj {inner inner' : Ipv4} (same : inner.groups = inner'.groups) :
    inner = inner' :=
  (Ipv4.ofGroups_of_groups same).symm.trans (Ipv4.ofGroups_of_groups rfl)

namespace Ipv6

/-- A run of zeros in the groups that no other is longer than, and none as long stands before. -/
structure LongestRun (groups front : List UInt16) (zeros : Nat) (back : List UInt16) : Prop where
  cut : groups = front ++ List.replicate zeros 0 ++ back
  longest : ∀ f k b, groups = f ++ List.replicate k 0 ++ b → k ≤ zeros
  first : ∀ f b, groups = f ++ List.replicate zeros 0 ++ b → front.length ≤ f.length

def joined (groups : List UInt16) : List Char :=
  List.intercalate [':'] (groups.map fun g => Text.hexadecimal g.toNat)

def Carries (ip : Ipv6) (inner : Ipv4) : Prop :=
  ip.groups = [0, 0, 0, 0, 0, 0xffff] ++ inner.groups

inductive Canonical (ip : Ipv6) : List Char → Prop
  | mapped (inner : Ipv4) : ip.Carries inner →
      Canonical ip (':' :: ':' :: 'f' :: 'f' :: 'f' :: 'f' :: ':' :: inner.render)
  | full : (∀ inner, ¬ ip.Carries inner) → ¬ [0, 0] <:+: ip.groups → Canonical ip (joined ip.groups)
  | short {front back : List UInt16} {zeros : Nat} : (∀ inner, ¬ ip.Carries inner) → 2 ≤ zeros →
      LongestRun ip.groups front zeros back →
      Canonical ip (joined front ++ ':' :: ':' :: joined back)

theorem LongestRun.unique {groups front front' back back' : List UInt16} {zeros zeros' : Nat}
    (run : LongestRun groups front zeros back) (run' : LongestRun groups front' zeros' back') :
    front = front' ∧ zeros = zeros' ∧ back = back' := by
  obtain rfl : zeros = zeros' :=
    Nat.le_antisymm (run'.longest _ _ _ run.cut) (run.longest _ _ _ run'.cut)
  have long : front.length = front'.length :=
    Nat.le_antisymm (run.first _ _ run'.cut) (run'.first _ _ run.cut)
  have same := run.cut.symm.trans run'.cut
  rw [List.append_assoc, List.append_assoc] at same
  obtain ⟨rfl, rest⟩ := List.append_inj same long
  exact ⟨rfl, rfl, List.append_cancel_left rest⟩

theorem LongestRun.take {groups front back : List UInt16} {zeros : Nat}
    (run : LongestRun groups front zeros back) : groups.take front.length = front := by
  rw [run.cut, List.append_assoc, List.take_left]

theorem LongestRun.drop {groups front back : List UInt16} {zeros : Nat}
    (run : LongestRun groups front zeros back) : groups.drop (front.length + zeros) = back := by
  have long : (front ++ List.replicate zeros 0).length = front.length + zeros := by simp
  rw [run.cut, ← long, List.drop_left]

theorem zeros_le_takeWhile {groups back : List UInt16} {k : Nat}
    (cut : groups = List.replicate k 0 ++ back) : k ≤ (groups.takeWhile (· == 0)).length := by
  rw [cut, List.takeWhile_append_of_pos (by simp)]
  simp

theorem takeWhile_zeros (groups : List UInt16) :
    groups = List.replicate (groups.takeWhile (· == 0)).length 0 ++ groups.dropWhile (· == 0) := by
  have zeros : groups.takeWhile (· == 0) = List.replicate (groups.takeWhile (· == 0)).length 0 :=
    List.eq_replicate_iff.mpr ⟨rfl, fun g hg => by simpa using List.mem_takeWhile_imp hg⟩
  rw [← zeros, List.takeWhile_append_dropWhile]

theorem longestZeros_longest (start : Nat) (groups : List UInt16) :
    ∃ front back, LongestRun groups front (longestZeros start groups).2 back ∧
      (longestZeros start groups).1 = start + front.length := by
  induction groups generalizing start with
  | nil =>
    refine ⟨[], [], ⟨rfl, ?_, by simp⟩, rfl⟩
    intro f k b cut
    have none := congrArg List.length cut
    simp only [List.length_nil, List.length_append, List.length_replicate] at none
    omega
  | cons g rest ih =>
    obtain ⟨front, back, run, found⟩ := ih (start + 1)
    simp only [longestZeros]
    split
    · rename_i notLater
      refine ⟨[], _, ⟨takeWhile_zeros (g :: rest), ?_, by simp⟩, rfl⟩
      intro f k b cut
      cases f with
      | nil => exact zeros_le_takeWhile cut
      | cons x f =>
        have inside := run.longest f k b (List.cons.inj cut).2
        omega
    · rename_i later
      refine ⟨g :: front, back, ⟨congrArg (g :: ·) run.cut, ?_, ?_⟩, by simp [found]; omega⟩
      · intro f k b cut
        cases f with
        | nil =>
          have here := zeros_le_takeWhile cut
          omega
        | cons x f => exact run.longest f k b (List.cons.inj cut).2
      · intro f b cut
        cases f with
        | nil =>
          have here := zeros_le_takeWhile cut
          omega
        | cons x f =>
          have inside := run.first f b (List.cons.inj cut).2
          simpa using inside

theorem LongestRun.two_le_iff {groups front back : List UInt16} {zeros : Nat}
    (run : LongestRun groups front zeros back) : 2 ≤ zeros ↔ [0, 0] <:+: groups := by
  constructor
  · intro several
    obtain ⟨more, rfl⟩ := Nat.exists_eq_add_of_le several
    refine ⟨front, List.replicate more 0 ++ back, ?_⟩
    rw [run.cut, List.replicate_append_replicate.symm]
    simp [List.replicate]
  · rintro ⟨f, b, cut⟩
    exact run.longest f 2 b cut.symm

theorem renderGroups_eq (groups : List UInt16) : renderGroups groups = joined groups := by
  induction groups using renderGroups.induct with
  | case1 => rfl
  | case2 g => simp [renderGroups, joined]
  | case3 g rest several ih =>
    have more : rest.map (fun g => Text.hexadecimal g.toNat) ≠ [] := by
      intro none
      exact several (List.map_eq_nil_iff.mp none)
    rw [renderGroups, ih]
    · simp only [joined, List.map_cons, List.intercalate_cons_of_ne_nil more]
      simp
    · exact several

theorem canonical_render (ip : Ipv6) : ip.Canonical ip.render := by
  unfold render
  split
  · rename_i high low same
    refine .mapped (Ipv4.ofGroups high low) ?_
    rw [Carries, same, Ipv4.groups_ofGroups]
    rfl
  · rename_i other
    have plain : ∀ inner, ¬ ip.Carries inner := fun inner carries => other _ _ carries
    obtain ⟨front, back, run, found⟩ := longestZeros_longest 0 ip.groups
    rw [Nat.zero_add] at found
    dsimp only
    split
    · rename_i several
      rw [found, run.take, run.drop, renderGroups_eq, renderGroups_eq]
      exact .short plain several run
    · rename_i few
      rw [renderGroups_eq]
      refine .full plain fun zeros => few ?_
      exact run.two_le_iff.mpr zeros

theorem Canonical.unique {ip : Ipv6} {s t : List Char} (one : ip.Canonical s)
    (other : ip.Canonical t) : s = t := by
  cases one with
  | mapped inner carries =>
    cases other with
    | mapped inner' carries' =>
      have same := carries.symm.trans carries'
      rw [Ipv4.groups_inj (List.append_cancel_left same)]
    | full plain => exact absurd carries (plain inner)
    | short plain => exact absurd carries (plain inner)
  | full plain apart =>
    cases other with
    | mapped inner carries => exact absurd carries (plain inner)
    | full => rfl
    | short _ several run => exact absurd (run.two_le_iff.mp several) apart
  | short plain several run =>
    cases other with
    | mapped inner carries => exact absurd carries (plain inner)
    | full _ apart => exact absurd (run.two_le_iff.mp several) apart
    | short _ _ run' =>
      obtain ⟨rfl, -, rfl⟩ := run.unique run'
      rfl

theorem canonical_iff {ip : Ipv6} {s : List Char} : ip.Canonical s ↔ s = ip.render := by
  constructor
  · intro canonical
    exact canonical.unique ip.canonical_render
  · rintro rfl
    exact ip.canonical_render

theorem isGroup_hexadecimal (g : UInt16) : IsGroup g (Text.hexadecimal g.toNat) := by
  refine ⟨Text.spells_hexadecimal _, ?_⟩
  have range : g.toNat < 16 ^ 4 := g.toNat_lt
  exact (Nat.length_toDigits_le_iff (by omega) (by omega)).mpr range

theorem groups_joined (dots : Bool) {groups : List UInt16} (some : groups ≠ []) :
    Groups dots groups (joined groups) := by
  induction groups with
  | nil => exact absurd rfl some
  | cons g rest ih =>
    cases rest with
    | nil => simpa [joined] using Groups.one (isGroup_hexadecimal g)
    | cons h rest =>
      have more := Groups.cons (isGroup_hexadecimal g) (ih (by simp))
      simpa [joined, List.intercalate_cons_cons] using more

theorem part_joined (dots : Bool) (groups : List UInt16) : Part dots groups (joined groups) := by
  by_cases none : groups = []
  · exact .inl ⟨none, by rw [none]; rfl⟩
  · exact .inr (groups_joined dots none)

/-- The canonical literal of an address is one of its literals. -/
theorem Canonical.spells {ip : Ipv6} {s : List Char} (canonical : ip.Canonical s) : ip.Spells s := by
  cases canonical with
  | mapped inner carries =>
    have prefixed : IsGroup 0xffff ['f', 'f', 'f', 'f'] := isGroup_hexadecimal 0xffff
    have zeros : ip.groups = [] ++ List.replicate (4 + 1) 0 ++ 0xffff :: inner.groups := carries
    exact .short (.inl ⟨rfl, rfl⟩) (.inr (.cons prefixed (.ipv4 inner rfl))) zeros
  | full plain apart =>
    refine .full (groups_joined true ?_)
    intro none
    simpa [none] using ip.eight
  | @short front back zeros plain several run =>
    obtain ⟨k, rfl⟩ : ∃ k, zeros = k + 1 := ⟨zeros - 1, by omega⟩
    exact .short (part_joined false front) (part_joined true back) run.cut

end Ipv6

end ChainFollower

import ChainFollower.Log.Output
import ChainFollower.Proofs.Cutting

/-!
Which directive of a filter decides on an area, and how the level for everything takes the place of
the levels in the environment that are for everything, too.
-/

namespace ChainFollower

namespace Directive

/-- The directive names more than the other: a longer target, or as long a one and more fields. -/
def Exceeds (directive other : Directive) : Prop :=
  other.weight.1 < directive.weight.1 ∨
    other.weight.1 = directive.weight.1 ∧ other.weight.2 < directive.weight.2

theorem outweighs_iff {directive other : Directive} :
    directive.outweighs other = true ↔ ¬ other.Exceeds directive := by
  simp only [outweighs, Exceeds, Bool.or_eq_true, Bool.and_eq_true, decide_eq_true_eq, beq_iff_eq]
  omega

theorem not_exceeds_trans {a b c : Directive} (first : ¬ b.Exceeds a) (second : ¬ c.Exceeds b) :
    ¬ c.Exceeds a := by
  simp only [Exceeds] at *
  omega

theorem not_exceeds_self (directive : Directive) : ¬ directive.Exceeds directive := by
  simp [Exceeds]

theorem Exceeds.not_symm {a b : Directive} (exceeds : a.Exceeds b) : ¬ b.Exceeds a := by
  simp only [Exceeds] at *
  omega

def IsBare (directive : Directive) : Prop :=
  directive.target = none ∧ directive.fields = []

instance (directive : Directive) : Decidable directive.IsBare :=
  inferInstanceAs (Decidable (_ ∧ _))

theorem IsBare.weight {directive : Directive} (bare : directive.IsBare) :
    directive.weight = (0, 0) := by
  simp [Directive.weight, bare.1, bare.2]

theorem isBare_iff {directive other : Directive} (bare : other.IsBare) :
    directive.IsBare ↔ ¬ directive.Exceeds other := by
  obtain ⟨target, spanned, fields, threshold⟩ := directive
  simp only [Exceeds, bare.weight, IsBare]
  cases target <;> cases fields <;> simp [Directive.weight]

end Directive

namespace Filter

open Directive

/-- The directive applies to the area and decides on it: of the others that apply none names more,
and those behind it name less. -/
def Decides (filter : Filter) (area : List Char) (directive : Directive) : Prop :=
  ∃ before after, filter = before ++ directive :: after ∧ directive.applies area = true ∧
    (∀ other ∈ before, other.applies area = true → ¬ other.Exceeds directive) ∧
    ∀ other ∈ after, other.applies area = true → directive.Exceeds other

def better (best : Option Directive) (directive : Directive) : Option Directive :=
  match best with
  | some kept => if directive.outweighs kept then some directive else some kept
  | none => some directive

theorem better_ne_none (best : Option Directive) (directive : Directive) :
    better best directive ≠ none := by
  unfold better
  split
  · split <;> simp
  · simp

theorem decisive_eq (filter : Filter) (area : List Char) :
    filter.decisive area = (filter.filter (·.applies area)).foldl better none := rfl

theorem decisive_concat (filter : Filter) (directive : Directive) (area : List Char) :
    decisive (filter ++ [directive]) area =
      if directive.applies area then better (filter.decisive area) directive
      else filter.decisive area := by
  cases applies : directive.applies area <;>
    simp [decisive_eq, List.filter_append, applies]

theorem decisive_eq_none {filter : Filter} {area : List Char} :
    filter.decisive area = none ↔ ∀ directive ∈ filter, directive.applies area = false := by
  induction filter using List.reverseRecOn with
  | nil => simp [decisive]
  | append_singleton filter directive ih =>
    rw [decisive_concat, List.forall_mem_append, ← ih]
    cases applies : directive.applies area with
    | false => simp [applies]
    | true =>
      simp [better_ne_none, applies]

theorem Decides.applies {filter : Filter} {area : List Char} {directive : Directive}
    (decides : filter.Decides area directive) : directive.applies area = true :=
  decides.choose_spec.choose_spec.2.1

theorem Decides.mem {filter : Filter} {area : List Char} {directive : Directive}
    (decides : filter.Decides area directive) : directive ∈ filter := by
  obtain ⟨before, after, rfl, -⟩ := decides
  simp

/-- No directive that applies names more than the one that decides. -/
theorem Decides.most {filter : Filter} {area : List Char} {directive : Directive}
    (decides : filter.Decides area directive) :
    ∀ other ∈ filter, other.applies area = true → ¬ other.Exceeds directive := by
  obtain ⟨before, after, rfl, -, most, last⟩ := decides
  intro other among applies
  rcases List.mem_append.mp among with earlier | among
  · exact most other earlier applies
  · rcases List.mem_cons.mp among with rfl | later
    · exact not_exceeds_self other
    · exact (last other later applies).not_symm

theorem Decides.concat {filter : Filter} {area : List Char} {directive last : Directive}
    (decides : filter.Decides area directive)
    (less : last.applies area = true → directive.Exceeds last) :
    Decides (filter ++ [last]) area directive := by
  obtain ⟨before, after, rfl, applies, most, behind⟩ := decides
  refine ⟨before, after ++ [last], by simp, applies, most, ?_⟩
  intro other among applies'
  rcases List.mem_append.mp among with earlier | same
  · exact behind other earlier applies'
  · cases List.mem_singleton.mp same
    exact less applies'

theorem decides_last {filter : Filter} {area : List Char} {last : Directive}
    (applies : last.applies area = true)
    (most : ∀ other ∈ filter, other.applies area = true → ¬ other.Exceeds last) :
    Decides (filter ++ [last]) area last :=
  ⟨filter, [], rfl, applies, most, by simp⟩

theorem decides_of_decisive {filter : Filter} {area : List Char} {directive : Directive}
    (found : filter.decisive area = some directive) : filter.Decides area directive := by
  induction filter using List.reverseRecOn generalizing directive with
  | nil => cases found
  | append_singleton filter last ih =>
    rw [decisive_concat] at found
    cases applies : last.applies area with
    | false =>
      have kept := ih (by simpa [applies] using found)
      exact kept.concat (by simp [applies])
    | true =>
      rw [if_pos applies] at found
      cases kept : decisive filter area with
      | none =>
        rw [kept] at found
        cases found
        apply decides_last applies
        intro other among applies'
        simp [decisive_eq_none.mp kept other among] at applies'
      | some best =>
        have decides := ih kept
        simp only [kept, better] at found
        split at found
        · rename_i heavier
          cases found
          apply decides_last applies
          intro other among applies'
          exact not_exceeds_trans (outweighs_iff.mp heavier) (decides.most other among applies')
        · rename_i lighter
          cases found
          exact decides.concat fun _ => not_not.mp (mt outweighs_iff.mpr lighter)

theorem Decides.unique {filter : Filter} {area : List Char} {directive other : Directive}
    (decides : filter.Decides area directive) (decides' : filter.Decides area other) :
    directive = other := by
  have noMore := decides.most other decides'.mem decides'.applies
  have noMore' := decides'.most directive decides.mem decides.applies
  obtain ⟨before, after, rfl, applies, -, last⟩ := decides
  obtain ⟨before', after', cut, applies', -, last'⟩ := decides'
  rcases List.append_eq_append_iff.mp cut with ⟨more, rfl, behind⟩ | ⟨more, rfl, behind⟩
  · cases more with
    | nil =>
      cases behind
      rfl
    | cons first more =>
      cases behind
      exact absurd (last other (by simp) applies') noMore'
  · cases more with
    | nil =>
      cases behind
      rfl
    | cons first more =>
      cases behind
      exact absurd (last' directive (by simp) applies) noMore

theorem decisive_eq_some {filter : Filter} {area : List Char} {directive : Directive} :
    filter.decisive area = some directive ↔ filter.Decides area directive := by
  constructor
  · exact decides_of_decisive
  · intro decides
    cases found : filter.decisive area with
    | none =>
      have none := decisive_eq_none.mp found directive decides.mem
      rw [decides.applies] at none
      cases none
    | some other => rw [(decides_of_decisive found).unique decides]

instance (filter : Filter) (area : List Char) (directive : Directive) :
    Decidable (filter.Decides area directive) :=
  decidable_of_iff _ decisive_eq_some

end Filter

end ChainFollower

import ChainFollower.Follower.Schedule
import Mathlib.Data.List.Nodup

/-! The rescans under way as a list of jobs: how they are told apart, and what becomes of the list
when one of them takes a step. -/
namespace ChainFollower

namespace Follower

def live (f : Follower) : List Nat :=
  (f.rescans.filter RescanJob.reading).map RescanJob.attempt

theorem mem_live {f : Follower} {job : RescanJob} (member : job ∈ f.rescans)
    (reading : job.reading = true) : job.attempt ∈ f.live :=
  List.mem_map_of_mem (List.mem_filter.mpr ⟨member, reading⟩)

/-- The jobs after one of them took a step: it is dropped when both of its sides have ended. -/
def replaced (jobs : List RescanJob) (number : Nat) (after : RescanJob) : List RescanJob :=
  if after.producer = .ended ∧ !after.reading then
    jobs.filter (fun other => other.number != number)
  else jobs.map (fun other => if other.number = number then after else other)

theorem rescanTurn_cases {step : Follower → RescanJob → Option (Follower × RescanJob)}
    {f g : Follower} {number : Nat} (turned : f.rescanTurn step number = some g) :
    ∃ job ∈ f.rescans, job.number = number ∧ ∃ e after, step f job = some (e, after) ∧
      g = { e with rescans := replaced e.rescans number after } := by
  unfold rescanTurn at turned
  split at turned
  · contradiction
  · rename_i job found
    have named : job.number = number := by simpa using List.find?_some found
    refine ⟨job, List.mem_of_find?_eq_some found, named, ?_⟩
    split at turned
    · contradiction
    · rename_i e after stepped
      refine ⟨e, after, stepped, ?_⟩
      unfold replaced
      split at turned
      · rename_i stopped
        rw [if_pos stopped]
        exact (Option.some.inj turned).symm
      · rename_i goesOn
        rw [if_neg goesOn]
        exact (Option.some.inj turned).symm

/-- Rescans are told apart by number and by attempt, and neither is one to come. -/
structure ToldApart (jobs : List RescanJob) (count tries : Nat) : Prop where
  numbers : (jobs.map RescanJob.number).Nodup
  attempts : (jobs.map RescanJob.attempt).Nodup
  numbered : ∀ number ∈ jobs.map RescanJob.number, number ≤ count
  tried : ∀ attempt ∈ jobs.map RescanJob.attempt, attempt ≤ tries

section
variable {jobs : List RescanJob} {job after : RescanJob}

theorem mem_replaced {number : Nat} {other : RescanJob} (member : other ∈ replaced jobs number after) :
    other ∈ jobs ∧ other.number ≠ number ∨ other = after := by
  unfold replaced at member
  split at member
  · simpa using Or.inl (List.mem_filter.mp member)
  · obtain ⟨before, inside, same⟩ := List.mem_map.mp member
    split at same
    · exact Or.inr same.symm
    · rename_i elsewhere
      exact Or.inl ⟨same ▸ inside, same ▸ elsewhere⟩

theorem eq_of_mem_replaced {number : Nat} {other : RescanJob}
    (member : other ∈ replaced jobs number after) (named : other.number = number) :
    other = after := by
  rcases mem_replaced member with ⟨_, elsewhere⟩ | same
  · exact absurd named elsewhere
  · exact same

theorem mem_replaced_of_ne {number : Nat} {other : RescanJob} (member : other ∈ jobs)
    (elsewhere : other.number ≠ number) : other ∈ replaced jobs number after := by
  unfold replaced
  split
  · exact List.mem_filter.mpr ⟨member, by simpa using elsewhere⟩
  · exact List.mem_map.mpr ⟨other, member, if_neg elsewhere⟩

theorem mem_replaced_self (member : job ∈ jobs) (goesOn : after.reading = true) :
    after ∈ replaced jobs job.number after := by
  unfold replaced
  rw [if_neg (by simp [goesOn])]
  exact List.mem_map.mpr ⟨job, member, if_pos rfl⟩

theorem eq_of_number (numbers : (jobs.map RescanJob.number).Nodup) (member : job ∈ jobs)
    {other : RescanJob} (inside : other ∈ jobs) (same : other.number = job.number) :
    other = job :=
  List.inj_on_of_nodup_map numbers inside member same

theorem map_replaced_sublist {β : Type} (key : RescanJob → β)
    (numbers : (jobs.map RescanJob.number).Nodup) (member : job ∈ jobs)
    (same : key after = key job) :
    ((replaced jobs job.number after).map key).Sublist (jobs.map key) := by
  unfold replaced
  split
  · exact List.filter_sublist.map key
  · have keys : ∀ other ∈ jobs,
        (key ∘ fun other => if other.number = job.number then after else other) other = key other := by
      intro other inside
      rw [Function.comp_apply]
      split
      · rename_i here
        rw [same, eq_of_number numbers member inside here]
      · rfl
    rw [List.map_map, List.map_congr_left keys]

theorem live_map {change : RescanJob → RescanJob}
    (same : ∀ job ∈ jobs, (change job).reading = job.reading ∧ (change job).attempt = job.attempt) :
    ((jobs.map change).filter RescanJob.reading).map RescanJob.attempt =
      (jobs.filter RescanJob.reading).map RescanJob.attempt := by
  induction jobs with
  | nil => rfl
  | cons job rest ih =>
    obtain ⟨reading, attempt⟩ := same job List.mem_cons_self
    have tail := ih fun other inside => same other (List.mem_cons_of_mem _ inside)
    cases goesOn : job.reading <;> simp [reading, goesOn, attempt, tail]

theorem live_replaced (numbers : (jobs.map RescanJob.number).Nodup) (member : job ∈ jobs)
    (reading : after.reading = job.reading) (attempt : after.attempt = job.attempt) :
    ((replaced jobs job.number after).filter RescanJob.reading).map RescanJob.attempt =
      (jobs.filter RescanJob.reading).map RescanJob.attempt := by
  unfold replaced
  split
  · rename_i stopped
    have ended : job.reading = false := by simpa [reading] using stopped.2
    rw [List.filter_filter]
    refine congrArg _ (List.filter_congr fun other inside => ?_)
    by_cases here : other.number = job.number
    · simp [eq_of_number numbers member inside here, ended]
    · simp [here]
  · refine live_map fun other inside => ?_
    split
    · rename_i here
      rw [reading, attempt, eq_of_number numbers member inside here]
      exact ⟨rfl, rfl⟩
    · exact ⟨rfl, rfl⟩

end

namespace ToldApart

variable {jobs : List RescanJob} {count tries : Nat}

theorem replaced (apart : ToldApart jobs count tries) {job after : RescanJob}
    (member : job ∈ jobs) (number : after.number = job.number)
    (attempt : after.attempt = job.attempt) :
    ToldApart (replaced jobs job.number after) count tries := by
  have numbers := map_replaced_sublist RescanJob.number apart.numbers member number
  have attempts := map_replaced_sublist RescanJob.attempt apart.numbers member attempt
  exact {
    numbers := numbers.nodup apart.numbers
    attempts := attempts.nodup apart.attempts
    numbered := fun other inside => apart.numbered other (numbers.subset inside)
    tried := fun other inside => apart.tried other (attempts.subset inside) }

theorem map (apart : ToldApart jobs count tries) {change : RescanJob → RescanJob}
    (same : ∀ job, (change job).number = job.number ∧ (change job).attempt = job.attempt) :
    ToldApart (jobs.map change) count tries := by
  have numbers : (jobs.map change).map RescanJob.number = jobs.map RescanJob.number := by
    rw [List.map_map]
    exact List.map_congr_left fun job _ => (same job).1
  have attempts : (jobs.map change).map RescanJob.attempt = jobs.map RescanJob.attempt := by
    rw [List.map_map]
    exact List.map_congr_left fun job _ => (same job).2
  exact {
    numbers := numbers.symm ▸ apart.numbers
    attempts := attempts.symm ▸ apart.attempts
    numbered := numbers.symm ▸ apart.numbered
    tried := attempts.symm ▸ apart.tried }

theorem append (apart : ToldApart jobs count tries) {job : RescanJob}
    (number : job.number = count + 1) (attempt : job.attempt = tries + 1) :
    ToldApart (jobs ++ [job]) (count + 1) (tries + 1) where
  numbers := by
    rw [List.map_append]
    refine apart.numbers.append (List.nodup_singleton _) ?_
    intro other before new
    have given := apart.numbered other before
    have same : other = job.number := by simpa using new
    omega
  attempts := by
    rw [List.map_append]
    refine apart.attempts.append (List.nodup_singleton _) ?_
    intro other before new
    have given := apart.tried other before
    have same : other = job.attempt := by simpa using new
    omega
  numbered other inside := by
    rw [List.map_append] at inside
    rcases List.mem_append.mp inside with before | new
    · exact Nat.le_succ_of_le (apart.numbered other before)
    · have same : other = job.number := by simpa using new
      omega
  tried other inside := by
    rw [List.map_append] at inside
    rcases List.mem_append.mp inside with before | new
    · exact Nat.le_succ_of_le (apart.tried other before)
    · have same : other = job.attempt := by simpa using new
      omega

end ToldApart

end Follower

end ChainFollower

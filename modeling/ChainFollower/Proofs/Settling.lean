import ChainFollower.Proofs.Course
import ChainFollower.Scenario.Answer

/-! The runs of a scenario are runs as any others: a step is a move, and what settles behind it goes
on by moves. -/
namespace ChainFollower.Course

open Follower

def Leads (c : Course) (f : Follower) : Prop :=
  ∃ d, Ran (fun _ _ _ => True) c d ∧ d.follower = f

namespace Leads

variable {c : Course} {f g : Follower}

theorem move {move : Move} (leads : c.Leads f) (made : f.move? move = some g) : c.Leads g := by
  obtain ⟨d, ran, rfl⟩ := leads
  exact ⟨d.next move g, .move ran made trivial, rfl⟩

theorem exhaust {agenda : Agenda} (leads : c.Leads agenda.follower) (turn : Turn)
    (fuel left : Nat) : c.Leads (agenda.exhaust turn fuel left).follower := by
  induction fuel generalizing left agenda with
  | zero => exact leads
  | succ fuel ih =>
    unfold Agenda.exhaust
    dsimp only
    split
    · exact leads
    · split
      · exact leads
      · rename_i f turned
        obtain ⟨move, made⟩ := move_of_turn turned
        have next : c.Leads (agenda.after turn f).follower := leads.move made
        exact ih next _

theorem work {agenda : Agenda} (leads : c.Leads agenda.follower) (steps fuel : Nat) :
    c.Leads (agenda.work steps fuel).follower := by
  induction fuel generalizing agenda with
  | zero => exact leads
  | succ fuel ih =>
    unfold Agenda.work
    split
    · rename_i turn rest _
      have begun : c.Leads { agenda with queue := rest }.follower := leads
      exact ih (begun.exhaust turn steps burst)
    · exact ih (leads.exhaust _ steps burst)
    · exact leads
    · exact ih leads

theorem settle (leads : c.Leads f) : c.Leads f.settle := by
  let able := f.tasks.filter (fun turn => (f.turn? turn).isSome)
  have begun : c.Leads (Agenda.mk f able []).follower := leads
  exact begun.work _ _

end Leads

theorem Sound.withHistory {c : Course} (sound : c.Sound) (history : List Happening) :
    Sound ⟨{ c.follower with history := history }, c.attached⟩ := by
  cases sound with
  | vacant inactive backend token starts runs attached =>
    exact .vacant inactive backend token starts runs attached
  | opening state backend pending runs attached =>
    exact .opening state backend pending runs attached
  | held run state backend token starts runs attached numbered =>
    exact .held run state backend token starts runs attached numbered

theorem Sound.take {c : Course} (sound : c.Sound) (step : Scenario.Step) :
    ∃ d : Course, d.Sound ∧ d.follower = (Scenario.take c.follower step).follower := by
  let begun : Course := ⟨{ c.follower with history := [] }, c.attached⟩
  have made : begun.follower.move? (.step step) = some (step.perform begun.follower).2 := rfl
  have here : begun.Leads begun.follower := ⟨begun, .start, rfl⟩
  obtain ⟨d, ran, same⟩ := (here.move made).settle
  have after : d.Sound := ran.sound (sound.withHistory [])
  exact ⟨_, after.withHistory (d.follower.history ++ c.follower.history), by rw [same]; rfl⟩

theorem sound_scenario {c : Course} (sound : c.Sound) (steps : List Scenario.Step) :
    ∀ answer ∈ Scenario.run c.follower steps,
      ∃ d : Course, d.Sound ∧ d.follower = answer.follower := by
  induction steps generalizing c with
  | nil => simp [Scenario.run]
  | cons step rest ih =>
    obtain ⟨d, after, same⟩ := sound.take step
    intro answer member
    rcases List.mem_cons.mp member with rfl | later
    · exact ⟨d, after, same⟩
    · exact ih after answer (same ▸ later)

end ChainFollower.Course

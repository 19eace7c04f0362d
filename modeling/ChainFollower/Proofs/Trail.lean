import ChainFollower.Proofs.Accounted
import ChainFollower.Proofs.Exclusion

/-! A run as the list of its stages, so that what a follower is can be told from what happened. -/
namespace ChainFollower

structure Stage where
  before : Follower
  move : Move
  after : Follower

/-- These stages, the last one first, lead to `f` from a follower that was just set up. -/
inductive Trail : List Stage → Follower → Prop where
  | setUp {setup : Scenario.Setup} {f : Follower} (accepted : setup.follower = .ok f) : Trail [] f
  | move {stages : List Stage} {f g : Follower} {move : Move} (before : Trail stages f)
      (made : f.move? move = some g) : Trail (⟨f, move, g⟩ :: stages) g

namespace Trail

variable {stages : List Stage} {f : Follower}

theorem standard : Trail [] Course.standard.follower :=
  .setUp (rfl : Scenario.Setup.standard.follower = .ok Course.standard.follower)

theorem reached (trail : Trail stages f) : ∃ c : Course, c.Reached ∧ c.follower = f := by
  induction trail with
  | @setUp setup f accepted =>
    exact ⟨⟨f, []⟩, ⟨⟨f, []⟩, ⟨⟨setup, accepted⟩, rfl⟩, .start⟩, rfl⟩
  | @move stages f g move before made ih =>
    obtain ⟨c, ⟨first, initial, ran⟩, rfl⟩ := ih
    exact ⟨c.next move g, ⟨first, initial, .move ran made trivial⟩, rfl⟩

theorem sound (trail : Trail stages f) : ∃ c : Course, c.Sound ∧ c.follower = f := by
  obtain ⟨c, reached, same⟩ := trail.reached
  exact ⟨c, reached.sound, same⟩

/-- Every stage is a move that was made when the stages before it had led there. -/
theorem stage (trail : Trail stages f) {stage : Stage} (member : stage ∈ stages) :
    ∃ earlier, Trail earlier stage.before ∧ earlier ⊆ stages ∧
      stage.before.move? stage.move = some stage.after := by
  induction trail with
  | setUp accepted => exact absurd member List.not_mem_nil
  | @move stages f g move before made ih =>
    rcases List.mem_cons.mp member with rfl | inside
    · exact ⟨stages, before, List.subset_cons_self _ _, made⟩
    · obtain ⟨earlier, trail, subset, made⟩ := ih inside
      exact ⟨earlier, trail, List.subset_cons_of_subset _ subset, made⟩

theorem settled (trail : Trail stages f) (calm : ∀ stage ∈ stages, stage.before.Calm) :
    Course.Settled f := by
  induction trail with
  | @setUp setup f accepted =>
    refine .of_idle ?_
    rw [(Scenario.Setup.fresh accepted).session]
  | move before made ih =>
    have settled := ih fun stage member => calm stage (List.mem_cons_of_mem _ member)
    exact settled.moved (calm _ List.mem_cons_self) made

end Trail

end ChainFollower

import ChainFollower.Proofs.Trail
import ChainFollower.Proofs.Vaults

/-! Who answers for the indexes that the store has opened. Each is held, or was closed, or an opening
put another one in its place, and then nobody can close it any more. -/
namespace ChainFollower

open Follower

namespace Stage

/-- The index that was held when the move opened the wallet once more. -/
def displaced? (stage : Stage) : Option Nat :=
  if stage.move.opens stage.before then stage.before.index else none

def displaced (stages : List Stage) : List Nat := stages.filterMap displaced?

end Stage

namespace Follower

def whereabouts (f : Follower) (lost : List Nat) : List Nat :=
  f.index.toList ++ lost ++ f.closed

def Accounts (f : Follower) (lost : List Nat) : Prop :=
  (f.whereabouts lost).Perm (List.range f.counts.indexes)

namespace Accounts

variable {f g : Follower} {lost : List Nat}

theorem shelved (accounts : f.Accounts lost) (shelved : Shelved f g) : g.Accounts lost := by
  unfold Accounts whereabouts
  rw [shelved.index, shelved.indexes, shelved.closed]
  exact accounts

theorem closes (accounts : f.Accounts lost) (closes : ClosesIndex f g) : g.Accounts lost := by
  unfold Accounts whereabouts
  rw [closes.index, closes.indexes, closes.closed]
  apply List.Perm.trans _ accounts
  simp only [Option.toList_none, List.nil_append, whereabouts]
  rw [← List.append_assoc]
  exact List.perm_append_comm.append_right f.closed

theorem opened (accounts : f.Accounts lost) (index : g.index = some f.counts.indexes)
    (indexes : g.counts.indexes = f.counts.indexes + 1) (closed : g.closed = f.closed) :
    g.Accounts (f.index.toList ++ lost) := by
  unfold Accounts whereabouts
  rw [index, indexes, closed, List.range_succ]
  exact (accounts.cons f.counts.indexes).trans (List.perm_append_singleton _ _).symm

theorem nodup (accounts : f.Accounts lost) : (f.whereabouts lost).Nodup :=
  (List.Perm.nodup_iff accounts).mpr List.nodup_range

theorem mem_iff (accounts : f.Accounts lost) (number : Nat) :
    number < f.counts.indexes ↔
      f.index = some number ∨ number ∈ lost ∨ number ∈ f.closed := by
  rw [← List.mem_range, ← List.Perm.mem_iff accounts, whereabouts]
  simp only [List.mem_append, Option.mem_toList, or_assoc]

theorem apart (accounts : f.Accounts lost) (number : Nat) :
    (f.index = some number → number ∉ lost ∧ number ∉ f.closed) ∧
      (number ∈ lost → number ∉ f.closed) := by
  have nodup := accounts.nodup
  unfold whereabouts at nodup
  rw [List.append_assoc, List.nodup_append', List.nodup_append'] at nodup
  obtain ⟨_, ⟨_, _, apart⟩, held⟩ := nodup
  constructor
  · intro index
    have outside := held (Option.mem_toList.mpr index)
    exact ⟨fun inside => outside (List.mem_append_left _ inside),
      fun inside => outside (List.mem_append_right _ inside)⟩
  · exact fun inside => apart inside

end Accounts

end Follower

theorem Scenario.Setup.accounts {setup : Setup} {f : Follower} (accepted : setup.follower = .ok f) :
    f.Accounts [] := by
  unfold Setup.follower at accepted
  split at accepted
  · contradiction
  · rw [← Except.ok.inj accepted]
    exact List.Perm.refl []

namespace Trail

variable {stages : List Stage} {f : Follower}

theorem accounts (trail : Trail stages f) : f.Accounts (Stage.displaced stages) := by
  induction trail with
  | setUp accepted => exact Scenario.Setup.accounts accepted
  | @move stages f g move before made ih =>
    have stays (opens : move.opens f = false) :
        Stage.displaced (⟨f, move, g⟩ :: stages) = Stage.displaced stages := by
      apply List.filterMap_cons_none
      simp only [Stage.displaced?, opens, Bool.false_eq_true, if_false]
    -- Only an opening makes an index, and it lets go of the one that is held.
    cases vault_moved made with
    | rests opens sets shelved =>
      rw [stays opens]
      exact ih.shelved shelved
    | set bytes opens sets shelved =>
      rw [stays opens]
      exact ih.shelved shelved
    | opened opens sets index indexes closed =>
      have displaces : Stage.displaced (⟨f, move, g⟩ :: stages) =
          f.index.toList ++ Stage.displaced stages := by
        have displaced : (Stage.mk f move g).displaced? = f.index := by
          simp only [Stage.displaced?, opens, if_true]
        unfold Stage.displaced
        rw [List.filterMap_cons, displaced]
        cases f.index <;> rfl
      rw [displaces]
      exact ih.opened index indexes closed
    | closed opens sets closes =>
      rw [stays opens]
      exact ih.closes closes

end Trail

namespace Follower

variable {f g : Follower}

def ClosesWallet (step : Scenario.Step) : Prop := step = .close ∨ step = .closeWallet

theorem ClosesIndex.of_returned {step : Scenario.Step} (closing : ClosesWallet step)
    {result : Except Stop Unit} (came : step.perform f = (.done result, g))
    (returned : ∀ text, result ≠ .error (.panicked text)) : ClosesIndex f g := by
  have closed {before : Follower} (sealed : Sealed f before)
      (came : (Scenario.Result.done (close.run before).1, (close.run before).2) =
        (.done result, g)) : ClosesIndex f g := by
    cases came
    rcases (comesTo_close before).closesIndex with ⟨_, text, panicked⟩ | closes
    · exact absurd panicked (returned text)
    · exact closes.of_sealed sealed
  rcases closing with rfl | rfl
  · exact closed ⟨rfl, rfl⟩ came
  · have quietly : Confined False False f f.cancelQuietly.cancelRescan := Confined.cancelTasks f
    exact closed quietly.sealed came

/-- With none in the hand, every index that was not lost was closed, and once. -/
theorem Accounts.count_closed {lost : List Nat} (accounts : f.Accounts lost)
    (index : f.index = none) {number : Nat} (known : number < f.counts.indexes) :
    f.closed.count number = if number ∈ lost then 0 else 1 := by
  have closed : f.closed.Nodup := (List.nodup_append'.mp accounts.nodup).2.1
  split
  · rename_i inside
    exact List.count_eq_zero.mpr ((accounts.apart number).2 inside)
  · rename_i outside
    rcases (accounts.mem_iff number).mp known with held | inside | inside
    · rw [index] at held
      contradiction
    · exact absurd inside outside
    · exact List.count_eq_one_of_mem closed inside

/-- What becomes of the indexes that the store has opened. -/
structure Custody (stages : List Stage) (f : Follower) : Prop where
  /-- None is closed twice, and only those are that the store has opened. -/
  once : f.closed.Nodup
  known : ∀ number ∈ f.closed, number < f.counts.indexes
  /-- One that was not closed is held, unless another one was put in its place. -/
  unclosed : ∀ number < f.counts.indexes,
    number ∉ f.closed ↔ f.index = some number ∨ number ∈ Stage.displaced stages
  lost : ∀ number ∈ Stage.displaced stages, f.index ≠ some number ∧ number ∉ f.closed
  /-- When a call that closes the wallet has returned, all others were closed, each of them once. -/
  released : ∀ step result g, ClosesWallet step → step.perform f = (.done result, g) →
    (∀ text, result ≠ .error (.panicked text)) → g.counts.indexes = f.counts.indexes ∧
    ∀ number < f.counts.indexes,
      g.closed.count number = if number ∈ Stage.displaced stages then 0 else 1

end Follower

namespace Trail

variable {stages : List Stage} {f : Follower}

/-- An index is closed once, unless the wallet is opened again while it is held. -/
theorem custody (trail : Trail stages f) : f.Custody stages := by
  have accounts := trail.accounts
  constructor
  · exact (List.nodup_append'.mp accounts.nodup).2.1
  · intro number inside
    exact (accounts.mem_iff number).mpr (Or.inr (Or.inr inside))
  · intro number known
    constructor
    · intro open_
      rcases (accounts.mem_iff number).mp known with held | lost | closed
      · exact Or.inl held
      · exact Or.inr lost
      · exact absurd closed open_
    · rintro (held | lost)
      · exact ((accounts.apart number).1 held).2
      · exact (accounts.apart number).2 lost
  · intro number lost
    exact ⟨fun held => ((accounts.apart number).1 held).1 lost, (accounts.apart number).2 lost⟩
  · intro step result g closing came returned
    have closes := ClosesIndex.of_returned closing came returned
    have after := accounts.closes closes
    constructor
    · exact closes.indexes
    · intro number known
      rw [← closes.indexes] at known
      exact after.count_closed closes.index known

theorem opened_twice {f g : Follower}
    (opened : Course.standard.follower.move? (.step (.openWallet Passphrase.insecurePublic)) =
      some f)
    (again : f.move? (.step (.openWallet Passphrase.insecurePublic)) = some g) :
    Trail [⟨f, .step (.openWallet Passphrase.insecurePublic), g⟩,
      ⟨Course.standard.follower, .step (.openWallet Passphrase.insecurePublic), f⟩] g :=
  .move (.move standard opened) again

theorem custody_opened_twice : ∃ stages f g, Trail stages f ∧ f.index = some 1 ∧
    Stage.displaced stages = [0] ∧ Scenario.Step.close.perform f = (.done (.ok ()), g) ∧
    f.Custody stages ∧ g.closed.count 0 = 0 ∧ g.closed.count 1 = 1 := by
  have trail := opened_twice rfl rfl
  have custody := trail.custody
  obtain ⟨_, counts⟩ := custody.released .close _ _ (Or.inl rfl) rfl nofun
  exact ⟨_, _, _, trail, rfl, rfl, rfl, custody, counts 0 (by decide), counts 1 (by decide)⟩

/-- After two openings the first index is not held, and closing the wallet does not close it. -/
theorem displaced_index_unclosed : ∃ stages f g, Trail stages f ∧ f.counts.indexes = 2 ∧
    f.closed = [] ∧ f.index = some 1 ∧ close.run f = (.ok (), g) ∧ g.index = none ∧
    g.closed = [1] :=
  ⟨_, _, _, opened_twice rfl rfl, rfl, rfl, rfl, rfl, rfl, rfl⟩

end Trail

end ChainFollower

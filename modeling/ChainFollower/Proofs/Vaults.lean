import ChainFollower.Proofs.Course
import ChainFollower.Proofs.Opening

/-! What every move does to the index that is held, to the indexes that there have been and to the
public passphrase. -/
namespace ChainFollower

open Follower

def Move.opens (f : Follower) : Move → Bool
  | .step (.openWallet publicPass) => ((openAll publicPass).run f).1.isOk
  | _ => false

/-- The public passphrase that the move sets. A new wallet gets the insecure one. -/
def Move.sets? (f : Follower) : Move → Option Bytes
  | .step (.create passphrase seed) =>
    if ((create passphrase seed).run f).1.isOk then some Passphrase.insecurePublic else none
  | .step (.changePublic old new) =>
    if (f.changePublicPass old new).1.call.isOk then some new else none
  | _ => none

namespace Follower

structure Shelved (f g : Follower) : Prop where
  index : g.index = f.index
  indexes : g.counts.indexes = f.counts.indexes
  closed : g.closed = f.closed

theorem Shelved.of_vault {f g : Follower} (vault : g.vault = f.vault)
    (closed : g.closed = f.closed) : Shelved f g :=
  ⟨congrArg Vault.index vault, congrArg Vault.indexes vault, closed⟩

inductive VaultMoved (f : Follower) (move : Move) (g : Follower) : Prop where
  | rests (opens : move.opens f = false) (sets : move.sets? f = none) (shelved : Shelved f g)
      (publicPass : g.wallet.publicPass = f.wallet.publicPass)
  | set (bytes : Bytes) (opens : move.opens f = false) (sets : move.sets? f = some bytes)
      (shelved : Shelved f g) (publicPass : g.wallet.publicPass = PassCall.meant bytes)
  | opened (opens : move.opens f = true) (sets : move.sets? f = none)
      (index : g.index = some f.counts.indexes) (indexes : g.counts.indexes = f.counts.indexes + 1)
      (closed : g.closed = f.closed) (publicPass : g.wallet.publicPass = f.wallet.publicPass)
  | closed (opens : move.opens f = false) (sets : move.sets? f = none) (closes : ClosesIndex f g)

variable {f g : Follower}

theorem VaultMoved.of_sealed {move : Move} (opens : move.opens f = false)
    (sets : move.sets? f = none) (sealed : Sealed f g) : VaultMoved f move g :=
  .rests opens sets (.of_vault sealed.1 sealed.2) (congrArg Vault.publicPass sealed.1)

theorem vaultMoved_create (passphrase seed : String) (f : Follower) :
    VaultMoved f (.step (.create passphrase seed)) ((create passphrase seed).run f).2 := by
  have closed := Confined.closed_callsOnly (CallsOnly.create passphrase seed f)
  have sets : (Move.step (.create passphrase seed)).sets? f =
    if ((create passphrase seed).run f).1.isOk then some Passphrase.insecurePublic else none := rfl
  rcases create_cases passphrase seed f with ⟨g, came, since⟩ | ⟨stop, g, came, since⟩
  · rw [came] at sets closed ⊢
    exact .set _ rfl sets ⟨since.index, congrArg Vault.indexes since.vault, closed⟩
      (congrArg Vault.publicPass since.vault)
  · rw [came] at sets closed ⊢
    exact .rests rfl sets (.of_vault since.vault closed) (congrArg Vault.publicPass since.vault)

theorem vaultMoved_changePublic (old new : Bytes) (f : Follower) :
    VaultMoved f (.step (.changePublic old new)) (f.changePublicPass old new).2 := by
  have closed := Confined.closed_callsOnly (CallsOnly.changePublicPass old new f)
  have sets : (Move.step (.changePublic old new)).sets? f =
    if (f.changePublicPass old new).1.call.isOk then some new else none := rfl
  rcases changePublicPass_cases old new f with ⟨came, since⟩ | ⟨came, since⟩
  · rw [came] at sets
    exact .set new rfl sets ⟨since.index, congrArg Vault.indexes since.vault, closed⟩
      (congrArg Vault.publicPass since.vault)
  · have fails : (f.changePublicPass old new).1.call.isOk = false := by
      cases result : (f.changePublicPass old new).1.call with
      | ok value => exact absurd result came
      | error stop => rfl
    rw [fails] at sets
    exact .rests rfl sets (.of_vault since.vault closed) (congrArg Vault.publicPass since.vault)

theorem vaultMoved_openAll (publicPass : Bytes) (f : Follower) :
    VaultMoved f (.step (.openWallet publicPass)) ((openAll publicPass).run f).2 := by
  have closed := Confined.closed_callsOnly (CallsOnly.openAll publicPass f)
  have opens : (Move.step (.openWallet publicPass)).opens f =
    ((openAll publicPass).run f).1.isOk := rfl
  have comes := comesTo_openAll publicPass f
  revert closed opens comes
  generalize (openAll publicPass).run f = result
  intro closed opens comes
  -- An index that the store refuses is not counted, so that the loader may have done its part.
  have rests {g : Follower} (loaded : Bool) (since : Since (f.withLoaded loaded) g)
      (closed : g.closed = f.closed) (opens : (Move.step (.openWallet publicPass)).opens f = false) :
      VaultMoved f (.step (.openWallet publicPass)) g :=
    .rests opens rfl ⟨since.index, congrArg Vault.indexes since.vault, closed⟩
      (congrArg Vault.publicPass since.vault)
  cases comes with
  | refused e keeps since => exact rests f.loader.loaded since closed opens
  | unindexed e loads since => exact rests true since closed opens
  | panicked text since =>
    rcases since with since | since
    · exact rests f.loader.loaded since closed opens
    · exact rests true since closed opens
  | opened loads since indexes =>
    exact .opened opens rfl since.index (congrArg Vault.indexes since.vault) closed
      (congrArg Vault.publicPass since.vault)

theorem vaultMoved_close {move : Move} (opens : move.opens f = false) (sets : move.sets? f = none)
    {before : Follower} (sealed : Sealed f before) : VaultMoved f move (close.run before).2 := by
  rcases (comesTo_close before).closesIndex with ⟨unlinked, _⟩ | closes
  · exact .of_sealed opens sets (IsTrans.trans _ _ _ sealed unlinked)
  · exact .closed opens sets (closes.of_sealed sealed)

theorem vault_moved {move : Move} (made : f.move? move = some g) : VaultMoved f move g := by
  by_cases opens : move.Opens
  · cases move with
    | step step =>
      cases made
      cases step with
      | create passphrase seed => exact vaultMoved_create passphrase seed f
      | openWallet publicPass => exact vaultMoved_openAll publicPass f
      | close => exact vaultMoved_close rfl rfl ⟨rfl, rfl⟩
      | closeWallet =>
        have quietly : Confined False False f f.cancelQuietly.cancelRescan := Confined.cancelTasks f
        exact vaultMoved_close rfl rfl quietly.sealed
      | setLoaded loaded => exact .rests rfl rfl ⟨rfl, rfl, rfl⟩ rfl
      | changePublic old new => exact vaultMoved_changePublic old new f
      | _ => exact opens.elim
    | _ => exact opens.elim
  · have confined := Confined.of_move made
    rw [eq_false opens] at confined
    have aside : move.opens f = false ∧ move.sets? f = none := by
      cases move with
      | step step =>
        cases step with
        | create => exact absurd trivial opens
        | openWallet => exact absurd trivial opens
        | changePublic => exact absurd trivial opens
        | _ => exact ⟨rfl, rfl⟩
      | _ => exact ⟨rfl, rfl⟩
    exact .of_sealed aside.1 aside.2 confined.sealed

end Follower

end ChainFollower

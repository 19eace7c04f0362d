import ChainFollower.Follower.Opening
import ChainFollower.Proofs.Work

/-! What work over lent buffers comes to. A guard changes nothing of the work under it, so a call that
is given passphrases does with their bytes what it is for, and its buffers come back wiped. -/
namespace ChainFollower

namespace Lending

variable {n : Nat} {α β : Type}

theorem run_call_bind (work : Act α) (next : α → Lending n β) (lent : Lent n) :
    (call work >>= next).run lent =
      match work.run lent.follower with
      | (.ok value, g) => (next value).run { lent with follower := g }
      | (.error stop, g) => (.error stop, { lent with follower := g }) := by
  have called : (call work : Lending n α).run lent =
      ((work.run lent.follower).1, { lent with follower := (work.run lent.follower).2 }) := rfl
  rw [Act.run_bind, called]
  rcases work.run lent.follower with ⟨stop | value, g⟩ <;> rfl

/-- A guard wipes its buffer whether the work comes to an end or stops. -/
theorem run_guarding (buffer : Fin n) (work : Lending n α) (lent : Lent n) :
    (guarding buffer work).run lent =
      ((work.run lent).1, (work.run lent).2.wiped buffer) := by
  unfold guarding
  simp only [tryFinally, tryFinally', ExceptT.run, ExceptT.mk, Functor.map, ExceptT.map, bind,
    StateT.bind]
  cases work lent with
  | mk result after => cases result <;> rfl

end Lending

namespace Follower

open Lending

def wiping (buffers : List Bytes) (work : Act Unit) (f : Follower) : Wiped × Follower :=
  (⟨(work.run f).1, buffers.map Passphrase.wiped⟩, (work.run f).2)

theorem unlock_eq (passphrase : Bytes) :
    unlock passphrase = wiping [passphrase] (do
      requireWallet
      orFail (← unlockWallet passphrase)) := by
  funext f
  unfold unlock lending wiping
  rw [run_guarding, run_call_bind, Act.run_bind]
  rcases requireWallet.run f with ⟨stop | value, g⟩ <;> rfl

theorem changePass_eq (change : Bytes → Bytes → Act (Except WalletError Unit)) (old new : Bytes) :
    changePass change old new = wiping [old, new] (do
      requireWallet
      orFail (← change old new)) := by
  funext f
  unfold changePass lending wiping
  rw [run_guarding, run_guarding, run_call_bind, Act.run_bind]
  rcases requireWallet.run f with ⟨stop | value, g⟩ <;> rfl

/-- Without a wallet the work is not begun. -/
theorem run_required (work : Act (Except WalletError Unit)) (f : Follower) :
    (do requireWallet; orFail (← work) : Act Unit).run f =
      if f.loader.loaded then (work >>= orFail).run f
      else (.error (.failed .walletNotLoaded), f) := by
  have required : requireWallet.run f =
      if f.loader.loaded then (.ok (), f) else (.error (.failed .walletNotLoaded), f) := by
    unfold requireWallet
    rw [Act.run_bind, Act.run_get]
    dsimp only
    split <;> rfl
  rw [Act.run_bind, required]
  cases f.loader.loaded <;> rfl

section
variable {related : Follower → Follower → Prop} [Std.Refl related]

theorem keeps_orFail {α : Type} (result : Except WalletError α) :
    Act.Keeps related (orFail result) := by
  unfold orFail
  split
  · exact Act.keeps_pure _
  · exact Act.keeps_fail _

variable [IsTrans Follower related]

theorem keeps_requireWallet : Act.Keeps related requireWallet := by
  refine Act.keeps_bind Act.keeps_get fun f => ?_
  split
  · exact Act.keeps_pure _
  · exact Act.keeps_fail _

theorem keeps_required {call : Act (Except WalletError Unit)} (calls : Act.Keeps related call) :
    Act.Keeps related (do requireWallet; orFail (← call)) :=
  Act.keeps_bind keeps_requireWallet fun _ => Act.keeps_bind calls keeps_orFail

theorem related_changePass {change : Bytes → Bytes → Act (Except WalletError Unit)}
    (changes : ∀ old new, Act.Keeps related (change old new)) (old new : Bytes) (f : Follower) :
    related f (changePass change old new f).2 := by
  rw [changePass_eq]
  exact keeps_required (changes old new) f

end

end Follower

end ChainFollower

import ChainFollower.Proofs.Trail
import ChainFollower.Proofs.Vaults

/-! Which passphrase opens a wallet. Changing the public passphrase takes an empty one for the insecure
one, and opening does not. -/
namespace ChainFollower

open Follower

def Stage.sets? (stage : Stage) : Option Bytes := stage.move.sets? stage.before

/-- Someone who gives none and someone who gives the insecure one mean the same. -/
def PassCall.Insecure (bytes : Bytes) : Prop := bytes = [] ∨ bytes = Passphrase.insecurePublic

namespace Follower

def OpensBy (f : Follower) (publicPass : Bytes) : Prop := ((openAll publicPass).run f).1 = .ok ()

structure CanOpen (f : Follower) : Prop where
  walletExists : f.loader.walletExists = true
  loader : f.fault? .openWallet = none
  indexes : f.Indexes

theorem CanOpen.opensBy_iff {f : Follower} (can : f.CanOpen) (publicPass : Bytes) :
    f.OpensBy publicPass ↔ publicPass = f.wallet.publicPass := by
  unfold OpensBy
  rw [opens_iff]
  constructor
  · intro both
    exact both.1.2.2.symm
  · intro own
    exact ⟨⟨can.loader, can.walletExists, own.symm⟩, can.indexes⟩

/-- What opens a wallet that was given this public passphrase last. -/
structure Reopens (f : Follower) (bytes : Bytes) : Prop where
  /-- No other one does, unless both are insecure. -/
  only : ∀ other, f.OpensBy other → other = bytes ∨
    PassCall.Insecure other ∧ PassCall.Insecure bytes
  iff : f.CanOpen → ∀ other, f.OpensBy other ↔ other = PassCall.meant bytes
  /-- The empty one does not open the wallet that it was given to. -/
  own : f.CanOpen → (f.OpensBy bytes ↔ bytes ≠ [])

theorem Reopens.of_publicPass {f : Follower} {bytes : Bytes}
    (same : f.wallet.publicPass = PassCall.meant bytes) : Reopens f bytes where
  only other opened := by
    have own := ((opens_iff other f).mp opened).1.2.2
    rw [same] at own
    cases bytes with
    | nil => exact Or.inr ⟨Or.inr own.symm, Or.inl rfl⟩
    | cons byte rest => exact Or.inl own.symm
  iff can other := by
    rw [can.opensBy_iff, same]
  own can := by
    rw [can.opensBy_iff, same]
    cases bytes with
    | nil => exact ⟨nofun, fun given => absurd rfl given⟩
    | cons byte rest => exact ⟨fun _ => nofun, fun _ => rfl⟩

end Follower

namespace Trail

variable {stages : List Stage} {f : Follower}

theorem publicPass (trail : Trail stages f) {bytes : Bytes}
    (last : stages.findSome? Stage.sets? = some bytes) :
    f.wallet.publicPass = PassCall.meant bytes := by
  induction trail with
  | setUp => contradiction
  | @move stages f g move before made ih =>
    have stays (sets : move.sets? f = none) (same : g.wallet.publicPass = f.wallet.publicPass) :
        g.wallet.publicPass = PassCall.meant bytes := by
      rw [List.findSome?_cons, Stage.sets?, sets] at last
      exact same.trans (ih last)
    -- Either this move set the passphrase, or an earlier one did and it is still the wallet's.
    cases vault_moved made with
    | rests opens sets shelved same => exact stays sets same
    | set given opens sets shelved same =>
      rw [List.findSome?_cons, Stage.sets?, sets] at last
      cases last
      exact same
    | opened opens sets index indexes closed same => exact stays sets same
    | closed opens sets closes => exact stays sets closes.publicPass

/-- Whatever else went on since, with the wallet closed or not, it opens by what was meant by the
passphrase that was set last, and by that alone. -/
theorem reopens (trail : Trail stages f) {bytes : Bytes}
    (last : stages.findSome? Stage.sets? = some bytes) : f.Reopens bytes :=
  .of_publicPass (trail.publicPass last)

theorem standard_rekeyed (bytes : Bytes) {f g : Follower}
    (set : Course.standard.follower.move? (.step (.changePublic [] bytes)) = some f)
    (closed : f.move? (.step .close) = some g) :
    Trail [⟨f, .step .close, g⟩,
      ⟨Course.standard.follower, .step (.changePublic [] bytes), f⟩] g :=
  .move (.move standard set) closed

theorem reopens_closed : ∃ stages f, Trail stages f ∧
    stages.findSome? Stage.sets? = some [0x6b] ∧ f.loader.loaded = false ∧ f.CanOpen ∧
    f.OpensBy [0x6b] ∧ f.Reopens [0x6b] := by
  have trail := standard_rekeyed [0x6b] rfl rfl
  have reopens := trail.reopens rfl
  exact ⟨_, _, trail, rfl, rfl, ⟨rfl, rfl, rfl, rfl⟩, rfl, reopens⟩

/-- A wallet that was given the empty passphrase, and closed, is not opened by the empty one. -/
theorem empty_publicPass_refused : ∃ stages f, Trail stages f ∧
    stages.findSome? Stage.sets? = some [] ∧ f.loader.loaded = false ∧ f.CanOpen ∧
    ((openAll []).run f).1 = .error (.failed .invalidPassphrase) ∧
    f.OpensBy Passphrase.insecurePublic :=
  ⟨_, _, standard_rekeyed [] rfl rfl, rfl, rfl, ⟨rfl, rfl, rfl, rfl⟩, rfl, rfl⟩

end Trail

end ChainFollower

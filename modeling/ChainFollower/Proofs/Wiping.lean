import ChainFollower.Proofs.Passphrases
import Mathlib.Data.List.Forall2

/-! The buffers that a caller lends for passphrases. The wallet gets their bytes as they were given,
and the caller gets them back wiped, whatever the call comes to. -/
namespace ChainFollower

inductive PassCall where
  | unlock (passphrase : Bytes)
  | changePrivate (old new : Bytes)
  | changePublic (old new : Bytes)

namespace PassCall

open Follower

def buffers : PassCall → List Bytes
  | unlock passphrase => [passphrase]
  | changePrivate old new => [old, new]
  | changePublic old new => [old, new]

def perform (f : Follower) : PassCall → Wiped × Follower
  | unlock passphrase => f.unlock passphrase
  | changePrivate old new => f.changePrivatePass old new
  | changePublic old new => f.changePublicPass old new

/-- An empty public passphrase stands for the insecure one, each for itself. -/
def meant (bytes : Bytes) : Bytes :=
  match bytes with
  | [] => Passphrase.insecurePublic
  | _ => bytes

def sight : PassCall → Sight
  | unlock passphrase => .unlock passphrase
  | changePrivate old new => .changePrivate old new
  | changePublic old new => .changePublic (meant old) (meant new)

def direct : PassCall → Act (Except WalletError Unit)
  | unlock passphrase => unlockWallet passphrase
  | changePrivate old new => Follower.changePrivate old new
  | changePublic old new => Follower.changePublic (meant old) (meant new)

theorem meant_eq (bytes : Bytes) : Passphrase.orInsecure bytes = meant bytes := by
  cases bytes <;> rfl

/-- A call is what the wallet does when it is called itself, with the buffers wiped behind it. -/
theorem perform_eq (call : PassCall) (f : Follower) :
    call.perform f = wiping call.buffers (do
      requireWallet
      orFail (← call.direct)) f := by
  cases call with
  | unlock passphrase => exact congrFun (unlock_eq passphrase) f
  | changePrivate old new => exact congrFun (changePass_eq Follower.changePrivate old new) f
  | changePublic old new =>
    simp only [perform, changePublicPass, changePass_eq, meant_eq]
    rfl

def Zeroed (given left : Bytes) : Prop :=
  left.length = given.length ∧ ∀ byte ∈ left, byte = 0

theorem zeroed_wiped (bytes : Bytes) : Zeroed bytes (Passphrase.wiped bytes) := by
  unfold Passphrase.wiped
  constructor
  · exact List.length_map _
  · intro byte member
    obtain ⟨_, _, zero⟩ := List.mem_map.mp member
    exact zero.symm

theorem zeroed_buffers (given : List Bytes) :
    List.Forall₂ Zeroed given (given.map Passphrase.wiped) := by
  induction given with
  | nil => exact .nil
  | cons bytes others ih => exact .cons (zeroed_wiped bytes) ih

def returned : Except Stop (Except WalletError Unit) → Except Stop Unit
  | .ok (.ok ()) => .ok ()
  | .ok (.error e) => .error (.failed (.ofWallet e))
  | .error stop => .error stop

theorem run_returned (work : Act (Except WalletError Unit)) (f : Follower) :
    (work >>= orFail).run f = (returned (work.run f).1, (work.run f).2) := by
  rw [Act.run_bind]
  rcases work.run f with ⟨stop | e | value, g⟩ <;> rfl

theorem perform_cases (call : PassCall) (f : Follower) :
    f.loader.loaded = true ∧ call.perform f =
        (⟨returned (call.direct.run f).1, call.buffers.map Passphrase.wiped⟩,
          (call.direct.run f).2) ∨
      f.loader.loaded = false ∧ call.perform f =
        (⟨.error (.failed .walletNotLoaded), call.buffers.map Passphrase.wiped⟩, f) := by
  have run := run_required call.direct f
  rw [perform_eq]
  unfold wiping
  rw [run]
  cases loaded : f.loader.loaded with
  | false => exact Or.inr ⟨rfl, rfl⟩
  | true =>
    rw [if_pos rfl, run_returned]
    exact Or.inl ⟨rfl, rfl⟩

theorem history_direct (call : PassCall) (f : Follower) :
    (call.direct.run f).2.history = .saw call.sight :: f.history := by
  -- The call is noted before it is answered, and no answer notes anything.
  have seen {change : Follower → Follower} {came : Except Stop (Except WalletError Unit) × Follower}
      (answers : Answers call.sight change f came) (same : ∀ f, (change f).history = f.history) :
      came.2.history = .saw call.sight :: f.history := by
    cases answers with
    | done => exact same _
    | refused e => rfl
    | panicked text => rfl
  cases call with
  | unlock passphrase => exact seen (answers_unlockWallet passphrase f) fun _ => rfl
  | changePrivate old new => exact seen (answers_changePrivate old new f) fun _ => rfl
  | changePublic old new => exact seen (answers_changePublic _ _ f) fun _ => rfl

/-- The passphrases are used as they were given, and no buffer keeps one. -/
structure Intact (call : PassCall) (f : Follower) (came : Wiped × Follower) : Prop where
  wiped : List.Forall₂ Zeroed call.buffers came.1.buffers
  unloaded : f.loader.loaded = false →
    came.1.call = .error (.failed .walletNotLoaded) ∧ came.2 = f
  received : f.loader.loaded = true → came.2.history = .saw call.sight :: f.history
  answer : f.loader.loaded = true → came.1.call = returned (call.direct.run f).1
  same : f.loader.loaded = true → came.2 = (call.direct.run f).2

/-- Whether there is a wallet or not, and whether it panics, fails or does as it is told. -/
theorem passphrases_intact (call : PassCall) (f : Follower) : Intact call f (call.perform f) := by
  rcases perform_cases call f with ⟨loaded, came⟩ | ⟨unloaded, came⟩
  · rw [came]
    constructor
    · exact zeroed_buffers _
    · intro unloaded
      rw [unloaded] at loaded
      contradiction
    · intro _
      exact history_direct call f
    · intro _
      rfl
    · intro _
      rfl
  · have never {p : Prop} (loaded : f.loader.loaded = true) : p := by
      rw [unloaded] at loaded
      contradiction
    rw [came]
    constructor
    · exact zeroed_buffers _
    · exact fun _ => ⟨rfl, rfl⟩
    · exact never
    · exact never
    · exact never

end PassCall

end ChainFollower

import ChainFollower.Proofs.Blind

/-! The calls that are given a passphrase or a seed. The wallet compares passphrases, so what such a
call comes to depends on them by its answer, and only by that. -/
namespace ChainFollower

def Seed.Alike (seed other : String) : Prop :=
  (∃ bytes bytes', decode seed = .ok bytes ∧ decode other = .ok bytes') ∨
    ∃ problem problem', decode seed = .error problem ∧ decode other = .error problem' ∧
      problem.toError = problem'.toError

def Seed.AlikeShown (seed other : String) : Prop :=
  Seed.Alike seed other ∧ seed.isEmpty = other.isEmpty

namespace Follower

open Act

theorem alike_createWallet (publicPass privatePass privatePass' seed seed' : Bytes) :
    Alike (createWallet publicPass privatePass seed)
      (createWallet publicPass privatePass' seed') := by
  refine alike_bind (alike_note rfl) fun _ => alike_bind (blind_fault _) fun found => ?_
  cases found with
  | some e => exact alike_pure _
  | none =>
    refine alike_get (fun _ => rfl) (fun _ => rfl) fun f => ?_
    split
    · exact alike_pure _
    · refine alike_bind (alike_update fun f g same => ?_) fun _ => alike_pure _
      have made (k : Follower) (pass : Bytes) : redacted { k with
            loader := { k.loader with walletExists := true, loaded := true }
            wallet := { k.wallet with publicPass := publicPass, privatePass := pass } } =
          { k.redacted with
            loader := { k.redacted.loader with walletExists := true, loaded := true } } := rfl
      rw [made, made, same]

theorem alike_create (passphrase passphrase' : String) {seed seed' : String}
    (alike : Seed.AlikeShown seed seed') :
    Alike (create passphrase seed) (create passphrase' seed') := by
  obtain ⟨alike, empty⟩ := alike
  refine alike_bind (blind_update fun _ => rfl) fun _ => ?_
  rw [empty]
  split
  · exact alike_fail _
  · rcases alike with ⟨bytes, bytes', came, came'⟩ | ⟨problem, problem', came, came', same⟩
    · rw [came, came']
      refine alike_bind (alike_createWallet _ _ _ bytes bytes') fun made => ?_
      cases made with
      | ok _ => exact blind_update fun _ => rfl
      | error e => exact alike_bind (blind_update fun _ => rfl) fun _ => alike_fail _
    · rw [came, came']
      dsimp only
      rw [same]
      exact alike_bind (blind_update fun _ => rfl) fun _ => alike_fail _

/-- What a call of the wallet comes to that is given a passphrase: a panic, an error, or the change
that it is for. -/
inductive Answers (sight : Sight) (change : Follower → Follower) (f : Follower) :
    Except Stop (Except WalletError Unit) × Follower → Prop where
  | done : Answers sight change f (.ok (.ok ()), change (f.saw sight))
  | refused (e : WalletError) : Answers sight change f (.ok (.error e), f.saw sight)
  | panicked (text : String) : Answers sight change f (.error (.panicked text), f.saw sight)

section
variable {sight sight' : Sight} {change change' : Follower → Follower} {f g : Follower}

theorem answers_call {place : Place} {rest : Option WalletError → Act (Except WalletError Unit)}
    (failing : ∀ e, rest (some e) = pure (.error e))
    (going : ∀ f, (rest none).run f = (.ok (.ok ()), change f) ∨
      ∃ e, (rest none).run f = (.ok (.error e), f)) (f : Follower) :
    Answers sight change f
      ((update (fun f => f.saw sight) >>= fun _ => fault place >>= rest).run f) := by
  rw [run_bind, run_update]
  dsimp only
  rw [run_bind, run_fault]
  rcases (f.saw sight).fault? place with _ | e | text
  · dsimp only
    rcases going (f.saw sight) with came | ⟨e, came⟩
    · rw [came]
      exact .done
    · rw [came]
      exact .refused e
  · dsimp only
    rw [failing]
    exact .refused e
  · exact .panicked text

/-- Calls with the same answer leave the same behind. -/
theorem Answers.alike {came came' : Except Stop (Except WalletError Unit) × Follower}
    (answers : Answers sight change f came) (answers' : Answers sight' change' g came')
    (same : f.redacted = g.redacted) (sights : sight.redacted = sight'.redacted)
    (changes : ∀ k l : Follower,
      k.redacted = l.redacted → (change k).redacted = (change' l).redacted)
    (answer : came.1 = came'.1) : came.2.redacted = came'.2.redacted := by
  have saw : (f.saw sight).redacted = (g.saw sight').redacted :=
    redacted_notes same (congrArg Happening.saw sights)
  cases answers with
  | done => cases answers' with
    | done => exact changes _ _ saw
    | refused e => cases answer
    | panicked text => cases answer
  | refused e => cases answers' with
    | done => cases answer
    | refused e' => exact saw
    | panicked text => cases answer
  | panicked text => cases answers' with
    | done => cases answer
    | refused e => cases answer
    | panicked text' => exact saw

end

theorem answers_createWallet (publicPass privatePass seed : Bytes) (f : Follower) :
    Answers (.create publicPass privatePass seed)
      (fun f => { f with
        loader := { f.loader with walletExists := true, loaded := true }
        wallet := { f.wallet with publicPass := publicPass, privatePass := privatePass } }) f
      ((createWallet publicPass privatePass seed).run f) := by
  refine answers_call (fun _ => rfl) (fun f => ?_) f
  rw [run_bind, run_get]
  dsimp only
  split
  · exact Or.inr ⟨_, rfl⟩
  · exact Or.inl rfl

theorem answers_openWallet (publicPass : Bytes) (f : Follower) :
    Answers (.openWallet publicPass)
      (fun f => { f with loader := { f.loader with loaded := true } }) f
      ((openWallet publicPass).run f) := by
  refine answers_call (fun _ => rfl) (fun f => ?_) f
  rw [run_bind, run_get]
  dsimp only
  split
  · exact Or.inr ⟨_, rfl⟩
  · split
    · exact Or.inr ⟨_, rfl⟩
    · exact Or.inl rfl

/-- The wallet compares what it is given with its own. -/
theorem compared (own : Follower → Bytes) (given : Bytes) (change : Follower → Follower)
    (f : Follower) :
    let work : Act (Except WalletError Unit) := do
      if own (← get) ≠ given then pure (.error .invalidPassphrase)
      else
        update change
        pure (.ok ())
    work.run f = (.ok (.ok ()), change f) ∨ ∃ e, work.run f = (.ok (.error e), f) := by
  dsimp only
  rw [run_bind, run_get]
  dsimp only
  split
  · exact Or.inr ⟨_, rfl⟩
  · exact Or.inl rfl

theorem answers_unlockWallet (passphrase : Bytes) (f : Follower) :
    Answers (.unlock passphrase) (fun f => { f with wallet := { f.wallet with locked := false } }) f
      ((unlockWallet passphrase).run f) :=
  answers_call (fun _ => rfl) (compared (fun f => f.wallet.privatePass) passphrase _) f

theorem answers_changePrivate (old new : Bytes) (f : Follower) :
    Answers (.changePrivate old new)
      (fun f => { f with wallet := { f.wallet with privatePass := new } }) f
      ((changePrivate old new).run f) :=
  answers_call (fun _ => rfl) (compared (fun f => f.wallet.privatePass) old _) f

theorem answers_changePublic (old new : Bytes) (f : Follower) :
    Answers (.changePublic old new)
      (fun f => { f with wallet := { f.wallet with publicPass := new } }) f
      ((changePublic old new).run f) :=
  answers_call (fun _ => rfl) (compared (fun f => f.wallet.publicPass) old _) f

section
variable {f g : Follower} (same : f.redacted = g.redacted)
include same

theorem alikeAt_openWallet {publicPass publicPass' : Bytes}
    (answer : ((openWallet publicPass).run f).1 = ((openWallet publicPass').run g).1) :
    AlikeAt (openWallet publicPass) (openWallet publicPass') f g := by
  refine ⟨answer, (answers_openWallet _ f).alike (answers_openWallet _ g) same rfl ?_ answer⟩
  exact fun k l same => congrArg
    (fun f : Follower => { f with loader := { f.loader with loaded := true } }) same

theorem alikeAt_unlockWallet {passphrase passphrase' : Bytes}
    (answer : ((unlockWallet passphrase).run f).1 = ((unlockWallet passphrase').run g).1) :
    AlikeAt (unlockWallet passphrase) (unlockWallet passphrase') f g := by
  refine ⟨answer, (answers_unlockWallet _ f).alike (answers_unlockWallet _ g) same rfl ?_ answer⟩
  exact fun k l same => congrArg
    (fun f : Follower => { f with wallet := { f.wallet with locked := false } }) same

theorem alikeAt_changePrivate {old new old' new' : Bytes}
    (answer : ((changePrivate old new).run f).1 = ((changePrivate old' new').run g).1) :
    AlikeAt (changePrivate old new) (changePrivate old' new') f g := by
  have answers := answers_changePrivate old new f
  exact ⟨answer, answers.alike (answers_changePrivate _ _ g) same rfl (fun _ _ => id) answer⟩

theorem alikeAt_changePublic {old new old' new' : Bytes}
    (answer : ((changePublic old new).run f).1 = ((changePublic old' new').run g).1) :
    AlikeAt (changePublic old new) (changePublic old' new') f g := by
  have answers := answers_changePublic old new f
  exact ⟨answer, answers.alike (answers_changePublic _ _ g) same rfl (fun _ _ => id) answer⟩

/-- Opening with passphrases that the loader answers alike. -/
theorem alikeAt_openAll {publicPass publicPass' : Bytes}
    (answer : ((openWallet publicPass).run f).1 = ((openWallet publicPass').run g).1) :
    AlikeAt (openAll publicPass) (openAll publicPass') f g := by
  refine (alikeAt_openWallet same answer).bind fun came => ?_
  cases came with
  | error e => exact alike_bind (blind_update fun _ => rfl) fun _ => alike_fail _
  | ok _ =>
    refine alike_get (fun _ => rfl) (fun _ => rfl) fun f => ?_
    refine alike_bind (blind_initIndex _) fun made => ?_
    cases made with
    | error e => exact alike_bind (blind_update fun _ => rfl) fun _ => alike_fail _
    | ok number => exact alike_bind (blind_update fun _ => rfl) fun _ => blind_update fun _ => rfl

theorem alikeAt_required {call other : Act (Except WalletError Unit)}
    (alike : f.loader.loaded = true → AlikeAt call other f g) :
    AlikeAt (do requireWallet; orFail (← call)) (do requireWallet; orFail (← other)) f g := by
  have loaded := clear_eq (fun f => f.loader.loaded) (fun _ => rfl) same
  unfold AlikeAt
  rw [run_required, run_required, ← loaded]
  -- Without a wallet no call is made, so that there is no answer to compare.
  split
  · rename_i held
    exact (alike held).bind fun result => blind_orFail result
  · exact ⟨rfl, same⟩

end

end Follower

end ChainFollower

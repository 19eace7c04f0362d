import ChainFollower.Proofs.Releasing
import ChainFollower.Proofs.Wiping

/-! What it comes to when a wallet is made, opened or given another public passphrase. Opening goes to
the loader first and then to the index store. -/
namespace ChainFollower.Follower

open Act

def Since (f g : Follower) : Prop := ∃ new, g = { f with history := new ++ f.history }

def Loads (f : Follower) (publicPass : Bytes) : Prop :=
  f.fault? .openWallet = none ∧ f.loader.walletExists = true ∧ f.wallet.publicPass = publicPass

def Indexes (f : Follower) : Prop :=
  f.fault? .indexInit = none ∧ f.fault? .nextAddress = none

def withIndex (f : Follower) : Follower :=
  { f with
    wallet := { f.wallet with addresses := f.wallet.addresses + 1 }
    indexBound := true
    counts := { f.counts with indexes := f.counts.indexes + 1 } }

def holding (f : Follower) (number : Nat) : Follower :=
  { f with index := some number }

def withWallet (f : Follower) (privatePass : Bytes) : Follower :=
  { f with
    loader := { f.loader with walletExists := true, loaded := true }
    wallet := { f.wallet with
      publicPass := Passphrase.insecurePublic, privatePass := privatePass } }

def rekeyed (f : Follower) (publicPass : Bytes) : Follower :=
  { f with wallet := { f.wallet with publicPass := publicPass } }

namespace Since

variable {f g h : Follower}

theorem refl (f : Follower) : Since f f := ⟨[], rfl⟩

theorem note (f : Follower) (happening : Happening) : Since f (f.note happening) :=
  ⟨[happening], rfl⟩

theorem log (f : Follower) (record : LogRecord) : Since f (f.log record) := note f _

theorem saw (f : Follower) (sight : Sight) : Since f (f.saw sight) := note f _

theorem trans (first : Since f g) (second : Since g h) : Since f h := by
  obtain ⟨new, rfl⟩ := first
  obtain ⟨more, rfl⟩ := second
  exact ⟨more ++ new, by simp only [List.append_assoc]⟩

/-- A change that has nothing to do with the history can come before or after. -/
theorem change (since : Since f g) (change : Follower → Follower)
    (apart : ∀ (f : Follower) new, change { f with history := new ++ f.history } =
      { change f with history := new ++ (change f).history }) : Since (change f) (change g) := by
  obtain ⟨new, rfl⟩ := since
  exact ⟨new, apart f new⟩

theorem vault (since : Since f g) : g.vault = f.vault := by
  obtain ⟨new, rfl⟩ := since
  rfl

theorem loader (since : Since f g) : g.loader = f.loader := by
  obtain ⟨new, rfl⟩ := since
  rfl

theorem index (since : Since f g) : g.index = f.index := by
  obtain ⟨new, rfl⟩ := since
  rfl

end Since

inductive Futile {α : Type} (f : Follower) :
    Except Stop (Except WalletError α) × Follower → Prop where
  | error (e : WalletError) {g : Follower} (since : Since f g) : Futile f (.ok (.error e), g)
  | panicked (text : String) {g : Follower} (since : Since f g) :
    Futile f (.error (.panicked text), g)

theorem openWallet_cases (publicPass : Bytes) (f : Follower) :
    f.Loads publicPass ∧ (openWallet publicPass).run f =
        (.ok (.ok ()), (f.saw (.openWallet publicPass)).withLoaded true) ∨
      ¬ f.Loads publicPass ∧ Futile f ((openWallet publicPass).run f) := by
  have seen := Since.saw f (.openWallet publicPass)
  have same : (f.saw (.openWallet publicPass)).fault? .openWallet = f.fault? .openWallet := rfl
  unfold openWallet
  rw [run_bind, run_update]
  dsimp only
  rw [run_bind, run_fault, same]
  cases broken : f.fault? .openWallet with
  | some fault =>
    refine Or.inr ⟨fun loads => by simp [loads.1] at broken, ?_⟩
    cases fault with
    | error e => exact .error e seen
    | panic text => exact .panicked text seen
  | none =>
    dsimp only
    rw [run_bind, run_get]
    dsimp only
    split
    · rename_i absent
      have absent : (!f.loader.walletExists) = true := absent
      refine Or.inr ⟨fun loads => ?_, .error .notExist seen⟩
      rw [loads.2.1] at absent
      contradiction
    · rename_i present
      have present : ¬ (!f.loader.walletExists) = true := present
      split
      · rename_i other
        exact Or.inr ⟨fun loads => other loads.2.2, .error .invalidPassphrase seen⟩
      · rename_i own
        exact Or.inl ⟨⟨broken, by simpa using present, Decidable.not_not.mp own⟩, rfl⟩

theorem initIndex_cases (path : String) (f : Follower) :
    f.Indexes ∧ (∃ g, (initIndex path).run f = (.ok (.ok f.counts.indexes), g) ∧
        Since f.withIndex g) ∨
      ¬ f.Indexes ∧ Futile f ((initIndex path).run f) := by
  have seen := Since.saw f (.indexInit path)
  have same (place : Place) : (f.saw (.indexInit path)).fault? place = f.fault? place := rfl
  unfold initIndex
  rw [run_bind, run_update]
  dsimp only
  rw [run_bind, run_fault, same]
  cases broken : f.fault? .indexInit with
  | some fault =>
    refine Or.inr ⟨fun indexes => by simp [indexes.1] at broken, ?_⟩
    cases fault with
    | error e => exact .error e seen
    | panic text => exact .panicked text seen
  | none =>
    dsimp only
    unfold nextAddress
    rw [run_bind, run_bind, run_fault, same]
    cases none : f.fault? .nextAddress with
    | some fault =>
      refine Or.inr ⟨fun indexes => by simp [indexes.2] at none, ?_⟩
      cases fault with
      | error e => exact .error e seen
      | panic text => exact .panicked text seen
    | none => exact Or.inl ⟨⟨broken, none⟩, _, rfl, (Since.saw f.withIndex _).trans (Since.saw _ _)⟩

inductive OpenComesTo (publicPass : Bytes) (f : Follower) : Except Stop Unit × Follower → Prop where
  | refused (e : WalletError) {g : Follower} (keeps : ¬ f.Loads publicPass) (since : Since f g) :
    OpenComesTo publicPass f (.error (.failed (.ofWallet e)), g)
  | unindexed (e : WalletError) {g : Follower} (loads : f.Loads publicPass)
      (since : Since (f.withLoaded true) g) (breaks : ¬ f.Indexes) :
    OpenComesTo publicPass f (.error (.failed (.txIndex e.message)), g)
  | panicked (text : String) {g : Follower} (since : Since f g ∨ Since (f.withLoaded true) g)
      (breaks : ¬ (f.Loads publicPass ∧ f.Indexes)) :
    OpenComesTo publicPass f (.error (.panicked text), g)
  | opened {g : Follower} (loads : f.Loads publicPass)
      (since : Since ((f.withLoaded true).withIndex.holding f.counts.indexes) g)
      (indexes : f.Indexes) : OpenComesTo publicPass f (.ok (), g)

theorem comesTo_openAll (publicPass : Bytes) (f : Follower) :
    OpenComesTo publicPass f ((openAll publicPass).run f) := by
  unfold openAll
  rw [run_bind]
  rcases openWallet_cases publicPass f with ⟨loads, came⟩ | ⟨keeps, futile⟩
  · let loaded := (f.saw (.openWallet publicPass)).withLoaded true
    have seen : Since (f.withLoaded true) loaded := Since.saw (f.withLoaded true) _
    rw [came]
    dsimp only
    rw [run_bind, run_get]
    dsimp only
    rw [run_bind]
    rcases initIndex_cases loaded.config.indexPath loaded with
      ⟨indexes, g, came, since⟩ | ⟨breaks, futile⟩
    · have indexed := (seen.change withIndex fun _ _ => rfl).trans since
      have held := indexed.change (holding · loaded.counts.indexes) fun _ _ => rfl
      rw [came]
      exact .opened loads (held.trans (.log _ _)) indexes
    · generalize (initIndex loaded.config.indexPath).run loaded = result at futile
      cases futile with
      | error e since => exact .unindexed e loads (seen.trans (since.trans (.log _ _))) breaks
      | panicked text since =>
        exact .panicked text (Or.inr (seen.trans since)) fun both => breaks both.2
  · generalize (openWallet publicPass).run f = result at futile
    cases futile with
    | error e since => exact .refused e keeps (since.trans (.log _ _))
    | panicked text since => exact .panicked text (Or.inl since) fun both => keeps both.1

/-- Opening comes to an end exactly if the loader and then the index store do their part. -/
theorem opens_iff (publicPass : Bytes) (f : Follower) :
    ((openAll publicPass).run f).1 = .ok () ↔ f.Loads publicPass ∧ f.Indexes := by
  have comes := comesTo_openAll publicPass f
  revert comes
  generalize (openAll publicPass).run f = result
  intro comes
  cases comes with
  | refused e keeps => exact ⟨nofun, fun both => absurd both.1 keeps⟩
  | unindexed e loads since breaks => exact ⟨nofun, fun both => absurd both.2 breaks⟩
  | panicked text since breaks => exact ⟨nofun, fun both => absurd both breaks⟩
  | opened loads since indexes => exact ⟨fun _ => ⟨loads, indexes⟩, fun _ => rfl⟩

theorem create_cases (passphrase seed : String) (f : Follower) :
    (∃ g, (create passphrase seed).run f = (.ok (), g) ∧
        Since (f.withWallet (Bytes.ofString passphrase)) g) ∨
      ∃ stop g, (create passphrase seed).run f = (.error stop, g) ∧ Since f g := by
  have begun := Since.log f .creating
  unfold create
  rw [run_bind, run_update]
  dsimp only
  split
  · exact Or.inr ⟨_, _, rfl, begun⟩
  · split
    · exact Or.inr ⟨_, _, rfl, begun.trans (.log _ _)⟩
    · rename_i bytes _
      have answers := answers_createWallet Passphrase.insecurePublic (Bytes.ofString passphrase)
        bytes (f.log .creating)
      rw [run_bind]
      revert answers
      generalize (createWallet _ _ bytes).run (f.log .creating) = result
      intro answers
      have asked := begun.trans (.saw _ (.create Passphrase.insecurePublic
        (Bytes.ofString passphrase) bytes))
      cases answers with
      | done =>
        have made := asked.change (withWallet · (Bytes.ofString passphrase)) fun _ _ => rfl
        exact Or.inl ⟨_, rfl, made.trans (.log _ _)⟩
      | refused e => exact Or.inr ⟨_, _, rfl, asked.trans (.log _ _)⟩
      | panicked text => exact Or.inr ⟨_, _, rfl, asked⟩

theorem changePublicPass_cases (old new : Bytes) (f : Follower) :
    (f.changePublicPass old new).1.call = .ok () ∧
        Since (f.rekeyed (PassCall.meant new)) (f.changePublicPass old new).2 ∨
      (f.changePublicPass old new).1.call ≠ .ok () ∧ Since f (f.changePublicPass old new).2 := by
  let call := PassCall.changePublic old new
  have asked := Since.saw f call.sight
  have performed : call.perform f = f.changePublicPass old new := rfl
  have answers := answers_changePublic (PassCall.meant old) (PassCall.meant new) f
  rw [← performed]
  rcases call.perform_cases f with ⟨_, came⟩ | ⟨_, came⟩
  · rw [came]
    revert answers
    have direct : call.direct = changePublic (PassCall.meant old) (PassCall.meant new) := rfl
    rw [direct]
    generalize (changePublic _ _).run f = result
    intro answers
    cases answers with
    | done => exact Or.inl ⟨rfl, asked.change (rekeyed · (PassCall.meant new)) fun _ _ => rfl⟩
    | refused e => exact Or.inr ⟨nofun, asked⟩
    | panicked text => exact Or.inr ⟨nofun, asked⟩
  · rw [came]
    exact Or.inr ⟨nofun, .refl f⟩

end ChainFollower.Follower

import ChainFollower.Proofs.Confined

/-! Closing the wallet, section by section: wallet and loader lose their link, the index that is held
is closed, and the loader is asked to unload the wallet. -/
namespace ChainFollower.Follower

open Act

def withLoaded (f : Follower) (loaded : Bool) : Follower :=
  { f with loader := { f.loader with loaded := loaded } }

def unlinked (f : Follower) : Follower :=
  (if f.loader.loaded then f.walletLinked none else f).loaderLinked none

theorem unlink_cases (f : Follower) :
    unlink.run f = (.ok (), f.unlinked) ∨
      ∃ text g, unlink.run f = (.error (.panicked text), g) ∧ ¬ f.LinksHold := by
  have loader (g : Follower) (same : g.faults = f.faults) :
      (setLoaderLink none).run g = (.ok (), g.loaderLinked none) ∨
        ∃ text h, (setLoaderLink none).run g = (.error (.panicked text), h) ∧ ¬ f.LinksHold := by
    rcases setLoaderLink_cases none g with ⟨_, came⟩ | ⟨breaks, text, came⟩
    · exact Or.inl came
    · exact Or.inr ⟨text, _, came, fun hold => breaks (hold.loader.of_faults same)⟩
  unfold unlink unlinked
  rw [run_bind, run_get]
  dsimp only
  split
  · rw [run_bind]
    rcases setWalletLink_cases none f with ⟨_, came⟩ | ⟨breaks, text, came⟩
    · rw [came]
      exact loader _ rfl
    · rw [came]
      exact Or.inr ⟨text, _, rfl, fun hold => breaks hold.wallet⟩
  · exact loader f rfl

def unindexed (f : Follower) : Follower :=
  match f.index with
  | none => f
  | some number => { f with index := none }.saw (.indexClose number)

theorem links_unindexed (f : Follower) :
    f.unlinked.unindexed.loader.link = none ∧
      f.unlinked.unindexed.wallet.link = if f.loader.loaded then none else f.wallet.link := by
  have links : f.unlinked.loader.link = none ∧
      f.unlinked.wallet.link = if f.loader.loaded then none else f.wallet.link := by
    unfold unlinked
    cases f.loader.loaded <;> exact ⟨rfl, rfl⟩
  unfold unindexed
  split
  · exact links
  · exact links

def Logged (f g : Follower) : Prop := g = f ∨ ∃ record, g = f.log record

/-- A failure to close the index is only logged. -/
theorem dropIndex_cases (f : Follower) :
    (∃ g, dropIndex.run f = (.ok (), g) ∧ Logged f.unindexed g) ∨
      ∃ text, dropIndex.run f = (.error (.panicked text), f.unindexed) ∧
        ¬ f.Holds .indexClose := by
  unfold dropIndex unindexed
  rw [run_bind, run_get]
  dsimp only
  cases f.index with
  | none => exact Or.inl ⟨f, rfl, Or.inl rfl⟩
  | some number =>
    let g := { f with index := none }.saw (.indexClose number)
    have same : g.fault? .indexClose = f.fault? .indexClose := rfl
    dsimp only
    unfold closeIndex
    rw [run_bind, run_update]
    dsimp only
    rw [run_bind, run_bind, run_update]
    dsimp only
    rw [run_bind, run_fault, same]
    cases found : f.fault? .indexClose with
    | none => exact Or.inl ⟨g, rfl, Or.inl rfl⟩
    | some fault =>
      cases fault with
      | error e => exact Or.inl ⟨g.log (.indexCloseFailed e), rfl, Or.inr ⟨_, rfl⟩⟩
      | panic text => exact Or.inr ⟨text, rfl, fun hold => hold text found⟩

theorem run_unloadWallet (f : Follower) :
    unloadWallet.run f =
      match f.fault? .unload with
      | some (.panic text) => (.error (.panicked text), f.saw .unload)
      | some (.error e) => (.ok (.error e), f.saw .unload)
      | none => (.ok (.ok ()), (f.saw .unload).withLoaded false) := by
  have same : (f.saw .unload).fault? .unload = f.fault? .unload := rfl
  unfold unloadWallet
  rw [run_bind, run_update]
  dsimp only
  rw [run_bind, run_fault, same]
  rcases f.fault? .unload with _ | e | text <;> rfl

/-- What closing comes to. Unless a collaborator panics, the loader has the last word. -/
inductive CloseComesTo (f : Follower) : Except Stop Unit × Follower → Prop where
  | unlinking (text : String) {g : Follower} (breaks : ¬ f.LinksHold)
      (came : unlink.run f = (.error (.panicked text), g)) :
    CloseComesTo f (.error (.panicked text), g)
  | dropping (text : String) (breaks : ¬ f.Holds .indexClose) :
    CloseComesTo f (.error (.panicked text), f.unlinked.unindexed)
  | unloading {text : String} {g : Follower} (breaks : f.fault? .unload = some (.panic text))
      (logged : Logged f.unlinked.unindexed g) :
    CloseComesTo f (.error (.panicked text), g.saw .unload)
  | refused {e : WalletError} {g : Follower} (refuses : f.fault? .unload = some (.error e))
      (logged : Logged f.unlinked.unindexed g) :
    CloseComesTo f (.error (.failed (.ofWallet e)), g.saw .unload)
  | closed {g : Follower} (agrees : f.fault? .unload = none)
      (logged : Logged f.unlinked.unindexed g) :
    CloseComesTo f (.ok (), ((g.saw .unload).withLoaded false).log .closed)

theorem faults_unlinked (f : Follower) : f.unlinked.faults = f.faults := by
  unfold unlinked
  split <;> rfl

theorem faults_unindexed (f : Follower) : f.unindexed.faults = f.faults := by
  unfold unindexed
  split <;> rfl

theorem Logged.faults {f g : Follower} (logged : Logged f g) : g.faults = f.faults := by
  rcases logged with rfl | ⟨record, rfl⟩ <;> rfl

theorem faults_logged {f g : Follower} (logged : Logged f.unlinked.unindexed g) :
    g.faults = f.faults :=
  (logged.faults.trans (faults_unindexed _)).trans (faults_unlinked f)

theorem comesTo_close (f : Follower) : CloseComesTo f (close.run f) := by
  unfold close
  rw [run_bind]
  rcases unlink_cases f with came | ⟨text, g, came, breaks⟩
  · rw [came]
    dsimp only
    rw [run_bind]
    rcases dropIndex_cases f.unlinked with ⟨g, came, logged⟩ | ⟨text, came, breaks⟩
    -- What is set up for the loader is the same after the other sections as before them.
    · have same : g.fault? .unload = f.fault? .unload := by
        rw [fault?, fault?, faults_logged logged]
      rw [came]
      dsimp only
      rw [run_bind, run_unloadWallet, same]
      rcases reply : f.fault? .unload with _ | e | text
      · exact .closed reply logged
      · exact .refused reply logged
      · exact .unloading reply logged
    · rw [came]
      exact .dropping text fun hold => breaks (hold.of_faults (faults_unlinked f))
  · rw [came]
    exact .unlinking text breaks came

/-- A call returns if the links can be taken away. -/
theorem CloseComesTo.returns {f g : Follower} {result : Except Stop Unit}
    (comes : CloseComesTo f (result, g)) (hold : f.LinksHold) (index : f.Holds .indexClose)
    (unload : f.Holds .unload) (text : String) : result ≠ .error (.panicked text) := by
  cases comes with
  | unlinking text breaks => exact absurd hold breaks
  | dropping text breaks => exact absurd index breaks
  | unloading breaks => exact absurd breaks (unload _)
  | refused => exact nofun
  | closed => exact nofun

theorem CloseComesTo.faults {f g : Follower} {result : Except Stop Unit}
    (comes : CloseComesTo f (result, g)) (returned : ∀ text, result ≠ .error (.panicked text)) :
    g.faults = f.faults := by
  cases comes with
  | unlinking text => exact absurd rfl (returned text)
  | dropping text => exact absurd rfl (returned text)
  | @unloading text => exact absurd rfl (returned text)
  | @refused e g refuses logged =>
    have same : g.faults = f.faults := faults_logged logged
    exact same
  | @closed g agrees logged =>
    have same : g.faults = f.faults := faults_logged logged
    exact same

structure ClosesIndex (f g : Follower) : Prop where
  index : g.index = none
  closed : g.closed = f.index.toList ++ f.closed
  indexes : g.counts.indexes = f.counts.indexes
  publicPass : g.wallet.publicPass = f.wallet.publicPass

theorem ClosesIndex.unindexed (f : Follower) : ClosesIndex f f.unindexed := by
  unfold Follower.unindexed
  split
  · rename_i none
    exact ⟨none, by rw [none]; rfl, rfl, rfl⟩
  · rename_i number held
    exact ⟨rfl, by rw [held]; rfl, rfl, rfl⟩

theorem ClosesIndex.of_sealed {f g h : Follower} (sealed : Sealed f g) (closes : ClosesIndex g h) :
    ClosesIndex f h := by
  obtain ⟨vault, closed⟩ := sealed
  constructor
  · exact closes.index
  · rw [closes.closed, closed]
    exact congrArg (·.index.toList ++ f.closed) vault
  · exact closes.indexes.trans (congrArg Vault.indexes vault)
  · exact closes.publicPass.trans (congrArg Vault.publicPass vault)

theorem Sealed.unlinked (f : Follower) : Sealed f f.unlinked := by
  have confined : Confined False False f f.unlinked := by
    unfold Follower.unlinked
    split
    · exact (Confined.walletLinked f none).trans (Confined.loaderLinked _ none)
    · exact Confined.loaderLinked f none
  exact confined.sealed

/-- Unless a panic comes before the index, closing closes it, and it does so whatever the loader
answers. -/
theorem CloseComesTo.closesIndex {f g : Follower} {result : Except Stop Unit}
    (comes : CloseComesTo f (result, g)) :
    Sealed f g ∧ (∃ text, result = .error (.panicked text)) ∨ ClosesIndex f g := by
  have closed := (ClosesIndex.unindexed f.unlinked).of_sealed (Sealed.unlinked f)
  have logged {g : Follower} (logged : Logged f.unlinked.unindexed g) : ClosesIndex f g := by
    rcases logged with rfl | ⟨record, rfl⟩ <;> exact { closed with }
  cases comes with
  | @unlinking text g breaks came =>
    have confined : Confined False False f (unlink.run f).2 := Confined.unlink f
    rw [came] at confined
    exact Or.inl ⟨confined.sealed, text, rfl⟩
  | dropping text breaks => exact Or.inr closed
  | unloading breaks same =>
    exact Or.inr { logged same with }
  | refused refuses same =>
    exact Or.inr { logged same with }
  | closed agrees same =>
    exact Or.inr { logged same with }

end ChainFollower.Follower

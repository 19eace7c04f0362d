import ChainFollower.Proofs.Opening

/-! Opening asks the loader for the wallet and then the index store for the index. If the store
fails after the loader did its part, the wallet stays loaded without the index. -/
namespace ChainFollower

def SyncError.blamesIndex : SyncError → Bool
  | txIndex _ => true
  | _ => false

theorem SyncError.ofWallet_blameless (e : WalletError) : (ofWallet e).blamesIndex = false := by
  cases e <;> rfl

namespace Follower

open Act

def Indexed (f : Follower) : Prop := f.index ≠ none → f.loader.loaded = true

namespace Indexed

variable {f g : Follower}

theorem of_kept (indexed : f.Indexed)
    (kept : g.loader.loaded = f.loader.loaded ∧ g.index = f.index) : g.Indexed := by
  unfold Indexed
  rw [kept.1, kept.2]
  exact indexed

theorem of_since (indexed : f.Indexed) (since : Since f g) : g.Indexed :=
  indexed.of_kept ⟨congrArg Loader.loaded since.loader, since.index⟩

theorem of_none (none : f.index = none) : f.Indexed := fun some => absurd none some

theorem of_loaded (loaded : f.loader.loaded = true) : f.Indexed := fun _ => loaded

def Preserved (f g : Follower) : Prop := f.Indexed → g.Indexed

theorem of_confined {reports : Prop} (confined : Confined False reports f g) : Preserved f g :=
  fun indexed => indexed.of_kept confined.kept

theorem create (passphrase seed : String) : Keeps Preserved (create passphrase seed) := by
  intro f indexed
  rcases create_cases passphrase seed f with ⟨g, came, since⟩ | ⟨stop, g, came, since⟩
  · rw [came]
    exact of_loaded (congrArg Loader.loaded since.loader)
  · rw [came]
    exact indexed.of_since since

theorem changePublicPass (old new : Bytes) (f : Follower) :
    Preserved f (f.changePublicPass old new).2 := by
  intro indexed
  rcases changePublicPass_cases old new f with ⟨_, since⟩ | ⟨_, since⟩
  · exact indexed.of_kept ⟨congrArg Loader.loaded since.loader, since.index⟩
  · exact indexed.of_since since

theorem openAll (publicPass : Bytes) : Keeps Preserved (openAll publicPass) := by
  intro f indexed
  have comes := comesTo_openAll publicPass f
  revert comes
  generalize (Follower.openAll publicPass).run f = result
  intro comes
  cases comes with
  | refused e keeps since => exact indexed.of_since since
  -- The loader has loaded the wallet before the index store is asked for the index.
  | unindexed e loads since => exact of_loaded (congrArg Loader.loaded since.loader)
  | panicked text since =>
    rcases since with since | since
    · exact indexed.of_since since
    · exact of_loaded (congrArg Loader.loaded since.loader)
  | opened loads since => exact of_loaded (congrArg Loader.loaded since.loader)

theorem close : Keeps Preserved close := by
  intro f
  rcases (comesTo_close f).closesIndex with ⟨sealed, _⟩ | closes
  · intro indexed
    exact indexed.of_kept ⟨congrArg Vault.loaded sealed.1, congrArg Vault.index sealed.1⟩
  · intro _
    exact of_none closes.index

theorem perform {step : Scenario.Step} (own : step ≠ .setLoaded false) (f : Follower) :
    Preserved f (step.perform f).2 := by
  by_cases opens : step.Opens
  · cases step with
    | create passphrase seed => exact create passphrase seed f
    | openWallet publicPass => exact openAll publicPass f
    | close => exact close f
    | closeWallet =>
      have quietly : Confined False False f f.cancelQuietly.cancelRescan := Confined.cancelTasks f
      exact fun indexed => close _ (of_confined quietly indexed)
    | setLoaded loaded =>
      cases loaded with
      | false => exact absurd rfl own
      | true => exact fun _ => of_loaded rfl
    | changePublic old new => exact changePublicPass old new f
    | _ => exact opens.elim
  · have confined := Confined.perform step f
    rw [eq_false opens] at confined
    exact of_confined confined

theorem moved {move : Move} (own : move ≠ .step (.setLoaded false)) (made : f.move? move = some g) :
    Preserved f g := by
  cases move with
  | step step =>
    cases made
    exact perform (fun same => own (congrArg Move.step same)) f
  | _ => exact of_confined (Confined.of_move made)

end Indexed

theorem startBarrier_loaded {f : Follower} (loaded : f.loader.loaded = true) :
    f.startBarrier? ≠ some .walletNotLoaded := by
  unfold startBarrier?
  rw [loaded]
  split
  · contradiction
  · split <;> exact nofun

/-- What an opening leaves that fails with an error. -/
structure OpenFails (f : Follower) (publicPass : Bytes) (e : SyncError) (g : Follower) : Prop where
  /-- The index that is held and the wallet are the same; only the loader may have loaded it. -/
  rest : ∃ loaded, Since (f.withLoaded loaded) g
  /-- The index is to blame exactly if the loader did its part, which is not undone. -/
  blames : e.blamesIndex = true ↔ f.Loads publicPass
  loaded : g.loader.loaded = (f.loader.loaded || e.blamesIndex)
  indexed : g.Indexed
  /-- A wallet that was not loaded is then, without an index, and starts are admitted for it. -/
  bare : f.loader.loaded = false → e.blamesIndex = true →
    g.index = none ∧ g.startBarrier? ≠ some .walletNotLoaded

end Follower

namespace Course

open Follower

/-- Only the follower itself takes a wallet away that it has loaded. -/
def Undisturbed (_ : Follower) (move : Move) (_ : Follower) : Prop :=
  move ≠ .step (.setLoaded false)

theorem Initial.indexed {c : Course} (initial : c.Initial) : c.follower.Indexed := by
  obtain ⟨⟨setup, accepted⟩, _⟩ := initial
  refine Indexed.of_none ?_
  unfold Scenario.Setup.follower at accepted
  split at accepted
  · contradiction
  · rw [← Except.ok.inj accepted]

theorem indexed_ran {c d : Course} (initial : c.Initial) (ran : Ran Undisturbed c d) :
    d.follower.Indexed := by
  induction ran with
  | start => exact initial.indexed
  | move before made own ih => exact Indexed.moved own made ih

/-- Whatever went on before, an opening that fails changes nothing, but for the wallet: once the
loader has loaded it, it stays loaded without the index. -/
theorem failed_opening {first c : Course} (initial : first.Initial)
    (ran : Ran Undisturbed first c) {publicPass : Bytes} {e : SyncError} {g : Follower}
    (failed : (openAll publicPass).run c.follower = (.error (.failed e), g)) :
    OpenFails c.follower publicPass e g := by
  have indexed := indexed_ran initial ran
  have comes := comesTo_openAll publicPass c.follower
  have still : g.Indexed := by
    have after := Indexed.openAll publicPass c.follower indexed
    rw [failed] at after
    exact after
  rw [failed] at comes
  cases comes with
  | refused e keeps since =>
    have blameless := SyncError.ofWallet_blameless e
    refine ⟨⟨c.follower.loader.loaded, since⟩, ?_, ?_, still, ?_⟩
    · simp [blameless, keeps]
    · rw [since.loader, blameless, Bool.or_false]
    · simp [blameless]
  | unindexed e loads since =>
    have loaded : g.loader.loaded = true := congrArg Loader.loaded since.loader
    refine ⟨⟨true, since⟩, ?_, ?_, still, ?_⟩
    · simp [SyncError.blamesIndex, loads]
    · simp [SyncError.blamesIndex, loaded]
    · intro unloaded _
      -- An index held before would have needed a loaded wallet.
      refine ⟨since.index.trans ?_, startBarrier_loaded loaded⟩
      apply Classical.byContradiction
      intro some
      rw [indexed some] at unloaded
      contradiction

theorem failed_opening_standard : ∃ (c : Course) (g : Follower), standard.Initial ∧
    Ran Undisturbed standard c ∧ c.follower.loader.loaded = false ∧
    (openAll Passphrase.insecurePublic).run c.follower =
      (.error (.failed (.txIndex "database is locked")), g) ∧
    OpenFails c.follower Passphrase.insecurePublic (.txIndex "database is locked") g := by
  have closed : Ran Undisturbed standard _ :=
    .move .start (rfl : standard.follower.move? (.step .close) = some _) nofun
  have locked : Ran Undisturbed standard _ :=
    .move closed (rfl : Follower.move? _ (.step (.fail .indexInit
      (some (.error (.other "database is locked"))))) = some _) nofun
  exact ⟨_, _, standard_initial, locked, rfl, rfl, failed_opening standard_initial locked rfl⟩

/-- The failed opening of a wallet that was closed leaves it loaded and without an index, and the
next start launches its sync. -/
theorem failed_opening_loads : ∃ (c : Course) (g h : Follower), c.Reached ∧
    c.follower.loader.loaded = false ∧
    (openAll Passphrase.insecurePublic).run c.follower =
      (.error (.failed (.txIndex "database is locked")), g) ∧
    g.loader.loaded = true ∧ g.index = none ∧
    (startSync (.spv [])).run g = (.ok (.launched 1), h) := by
  have made : standard.after? [.step .close, .step (.fail .indexInit
      (some (.error (.other "database is locked"))))] = some _ := rfl
  exact ⟨_, _, _, ⟨standard, standard_initial, .of_after made⟩, rfl, rfl, rfl, rfl, rfl⟩

end Course

end ChainFollower

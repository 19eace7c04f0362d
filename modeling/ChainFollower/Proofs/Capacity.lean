import ChainFollower.Proofs.Configured
import ChainFollower.Proofs.Scans

/-! How many reports of a rescan may wait. A configuration can ask for any number but none, which is
more than a channel can be made for; the rescan then panics when it starts. -/
namespace ChainFollower

namespace Config

theorem problem?_eq_none {config : Config} : config.problem? = none ↔
    config.rescanCapacity ≠ 0 ∧ config.network.peerPort ≠ 0 ∧ config.network.rpcPort ≠ 0 := by
  unfold problem?
  split
  · rename_i none
    exact ⟨nofun, fun valid => absurd none valid.1⟩
  · rename_i some
    split
    · rename_i portless
      exact ⟨nofun, fun valid => (portless.elim valid.2.1 valid.2.2).elim⟩
    · rename_i ports
      exact ⟨fun _ => ⟨some, not_or.mp ports⟩, fun _ => rfl⟩

theorem validate_eq_ok {config : Config} : config.validate = .ok () ↔ config.problem? = none := by
  unfold validate
  cases config.problem? with
  | none => exact ⟨fun _ => rfl, fun _ => rfl⟩
  | some e => exact ⟨nofun, nofun⟩

/-- What is read from a file was validated. -/
theorem problem?_of_load {file : File} {config : Config} (loaded : load file = .ok config) :
    config.problem? = none := by
  unfold load at loaded
  split at loaded
  · contradiction
  · contradiction
  · split at loaded
    · contradiction
    · unfold ofText at loaded
      split at loaded
      · contradiction
      · split at loaded
        · contradiction
        · rename_i valid
          cases loaded
          exact valid

end Config

namespace Follower

/-- What the maker of channels panics with. -/
def roomless : String :=
  "a semaphore may not have more than MAX_PERMITS permits (2305843009213693951)"

/-- The channel is made after the slot was taken; its panic gives the slot back. -/
theorem startRescan_roomless {f : Follower} {link : Link} (free : f.rescanLink = .ok link)
    (beyond : maxCapacity < f.channelCapacity) :
    f.startRescan =
      (((f.occupyRescan (f.counts.rescanAttempts + 1)).log (.rescanStarting link.name)).releaseRescan,
        .stopped (.panicked roomless)) := by
  have vast : ((f.occupyRescan (f.counts.rescanAttempts + 1)).log
      (.rescanStarting link.name)).channelCapacity > maxCapacity := beyond
  simp only [startRescan, free, if_pos vast]
  rfl

/-- What becomes of a rescan, which nothing bars, with a channel for so many reports. -/
structure StartsWithin (capacity : Nat) (f : Follower) : Prop where
  fits : capacity ≤ maxCapacity → ∃ job, job.producer = .ready ∧
    f.startRescan.2 = .started job.number ∧ f.startRescan.1.rescans = f.rescans ++ [job]
  /-- Nothing is left of it then, so that the next start comes to the same. -/
  exceeds : maxCapacity < capacity →
    f.startRescan.2 = .stopped (.panicked roomless) ∧
      f.startRescan.1.rescans = f.rescans ∧ f.startRescan.1.rescanSlot = ⟨false, none⟩

theorem startsWithin_channelCapacity {f : Follower} {link : Link} (free : f.rescanLink = .ok link) :
    f.StartsWithin f.channelCapacity := by
  constructor
  · exact Course.startRescan_admitted free
  · intro beyond
    rw [startRescan_roomless free beyond]
    exact ⟨rfl, rfl, rfl⟩

theorem channelCapacity_eq {f : Follower} (some : f.config.rescanCapacity ≠ 0) :
    f.channelCapacity = f.config.rescanCapacity.toNat := by
  have least : 1 ≤ f.config.rescanCapacity.toNat :=
    Nat.one_le_iff_ne_zero.mpr fun none => some (UInt64.toNat_inj.mp none)
  rw [channelCapacity, Nat.max_eq_right least]

end Follower

theorem Scenario.Setup.follower_of_valid {setup : Setup} (valid : setup.config.problem? = none) :
    ∃ f, setup.follower = .ok f ∧ f.config = setup.config := by
  unfold Setup.follower
  rw [valid]
  exact ⟨_, rfl, rfl⟩

namespace Course

open Follower

/-- A configuration is accepted with any capacity but zero. With one that no channel can have, every
rescan panics that is started in whatever comes later; with any other, every rescan starts. -/
theorem accepted_capacity {setup : Scenario.Setup} (accepted : setup.config.validate = .ok () ∨
      ∃ file, Config.load file = .ok setup.config) :
    (∀ capacity, { setup.config with rescanCapacity := capacity }.validate = .ok () ↔
      capacity ≠ 0) ∧
    ∃ f, setup.follower = .ok f ∧ ∀ c, Ran (fun _ _ _ => True) ⟨f, []⟩ c →
      c.follower.loader.loaded = true → c.follower.wallet.link.isSome = true →
      c.follower.rescanSlot.running = false →
      c.follower.StartsWithin setup.config.rescanCapacity.toNat := by
  have valid : setup.config.problem? = none := by
    rcases accepted with validated | ⟨file, loaded⟩
    · exact Config.validate_eq_ok.mp validated
    · exact Config.problem?_of_load loaded
  obtain ⟨some, ports⟩ := Config.problem?_eq_none.mp valid
  constructor
  · intro capacity
    rw [Config.validate_eq_ok, Config.problem?_eq_none]
    exact ⟨fun valid => valid.1, fun some => ⟨some, ports⟩⟩
  · obtain ⟨f, made, config⟩ := Scenario.Setup.follower_of_valid valid
    refine ⟨f, made, fun c ran loaded linked idle => ?_⟩
    have same : c.follower.config = setup.config := Eq.trans ran.sameConfig config
    obtain ⟨link, held⟩ := Option.isSome_iff_exists.mp linked
    have free : c.follower.rescanLink = .ok link := by simp [rescanLink, loaded, held, idle]
    rw [← same] at some ⊢
    rw [← channelCapacity_eq some]
    exact startsWithin_channelCapacity free

def linkedSetup (config : Config) : Scenario.Setup :=
  let standard := Scenario.Setup.standard
  { standard with config, wallet := { standard.wallet with link := some (.foreign "node") } }

/-- A rescan starts with the largest capacity that a channel can have. -/
theorem accepted_capacity_largest : ∃ (config : Config) (f : Follower),
    config.rescanCapacity.toNat = maxCapacity ∧ config.validate = .ok () ∧
    (linkedSetup config).follower = .ok f ∧ f.loader.loaded = true ∧ f.wallet.link.isSome = true ∧
    f.rescanSlot.running = false ∧ ∃ job, f.startRescan.2 = .started job.number ∧
      f.startRescan.1.rescans = [job] := by
  let config := { Config.standard with rescanCapacity := 2305843009213693951 }
  have accepted : (linkedSetup config).config.validate = .ok () := rfl
  obtain ⟨-, f, made, starts⟩ := accepted_capacity (.inl accepted)
  cases made
  obtain ⟨job, -, started, jobs⟩ := (starts _ .start rfl rfl rfl).fits (Nat.le_refl maxCapacity)
  exact ⟨config, _, rfl, accepted, rfl, rfl, rfl, rfl, job, started, jobs⟩

def vastFile : Config.File :=
  .content (Bytes.ofString "\x7b\"rescan_channel_capacity\": 2305843009213693952\x7d")

/-- This file is read without complaint, and no rescan starts. -/
theorem vast_capacity_panics : ∃ (config : Config) (f : Follower),
    Config.load vastFile = .ok config ∧ config.validate = .ok () ∧
    (linkedSetup config).follower = .ok f ∧ f.loader.loaded = true ∧
    f.wallet.link.isSome = true ∧ f.rescanSlot.running = false ∧
    f.startRescan.2 = .stopped (.panicked roomless) := by
  let config := { Config.standard with rescanCapacity := 2305843009213693952 }
  have loaded : Config.load vastFile = .ok config := by
    have read : (Config.load vastFile).toOption = some config := by decide +kernel
    cases came : Config.load vastFile with
    | error e => simp [came, Except.toOption] at read
    | ok found => simpa [came, Except.toOption] using read
  exact ⟨config, _, loaded, rfl, rfl, rfl, rfl, rfl, rfl⟩

end Course

end ChainFollower

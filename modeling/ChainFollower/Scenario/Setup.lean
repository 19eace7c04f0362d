import ChainFollower.Follower.Schedule
import ChainFollower.Follower.Tip

/-!
A scenario: a follower that is set up in some way, and steps that are taken one after the other,
with time for all tasks to settle after each.
-/

namespace ChainFollower.Scenario

structure Setup where
  config : Config
  listeners : List Listener
  loader : Loader
  wallet : Wallet
  scripts : BackendScripts
  faults : List (Place × Fault)

/-- The follower at its start, unless its configuration is refused. -/
def Setup.follower (setup : Setup) : Except SyncError Follower :=
  match setup.config.problem? with
  | some e => .error e
  | none =>
    .ok {
      config := setup.config
      listeners := setup.listeners
      session := ⟨.idle, none, none⟩
      cache := none
      rescanSlot := ⟨false, none⟩
      index := none
      shutdown := false
      cancelled := []
      wallet := setup.wallet
      loader := setup.loader
      indexBound := false
      scripts := setup.scripts
      faults := setup.faults
      syncers := []
      clients := []
      starts := []
      runs := []
      rescans := []
      lastRescan := none
      counts := ⟨0, 0, 0, 0, 0, 0, 0, 0⟩
      history := [] }

/-- A configuration, one listener, and a wallet that exists, is loaded and is locked. -/
def Setup.standard : Setup where
  config := Config.new "/wallet" Network.testnet3
  listeners := [Listener.plain]
  loader := ⟨true, true, none⟩
  wallet := {
    locked := true
    privatePass := Bytes.ofString "hunter2"
    publicPass := Passphrase.insecurePublic
    link := none
    tip := ⟨"00ab", 42⟩
    blockTime := some 1700000000
    addresses := 0
    rescan := ⟨[], .wait, false⟩ }
  scripts := ⟨RunScript.waiting, RunScript.waiting, Gate.connecting⟩
  faults := []

end ChainFollower.Scenario

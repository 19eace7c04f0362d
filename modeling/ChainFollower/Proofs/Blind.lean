import ChainFollower.Proofs.Launching
import ChainFollower.Proofs.Redaction

/-! Work that comes to the same with and without secrets. Two pieces of work that only differ in
them have the same result, and leave the same of the follower when secrets are blotted out. -/
namespace ChainFollower

namespace Act

variable {α β : Type}

def AlikeAt (work other : Act α) (f g : Follower) : Prop :=
  (work.run f).1 = (other.run g).1 ∧ (work.run f).2.redacted = (other.run g).2.redacted

/-- The two come to the same from followers that differ in secrets only. -/
def Alike (work other : Act α) : Prop :=
  ∀ f g : Follower, f.redacted = g.redacted → AlikeAt work other f g

def Blind (work : Act α) : Prop := Alike work work

theorem alike_pure (value : α) : Blind (pure value : Act α) :=
  fun _ _ same => ⟨rfl, same⟩

theorem alike_throw (stop : Stop) : Blind (throw stop : Act α) :=
  fun _ _ same => ⟨rfl, same⟩

theorem alike_fail (e : SyncError) : Blind (fail e : Act α) :=
  alike_throw _

theorem alike_update {change other : Follower → Follower}
    (alike : ∀ f g : Follower, f.redacted = g.redacted → (change f).redacted = (other g).redacted) :
    Alike (update change) (update other) :=
  fun f g same => ⟨rfl, alike f g same⟩

/-- A change that is the same with and without secrets. -/
theorem blind_update {change : Follower → Follower}
    (commutes : ∀ f, (change f).redacted = change f.redacted) : Blind (update change) :=
  alike_update fun f g same => by rw [commutes, commutes, same]

theorem AlikeAt.outcome {work other : Act α} {f g : Follower} (alike : AlikeAt work other f g) :
    ∃ result f' g', work.run f = (result, f') ∧ other.run g = (result, g') ∧
      f'.redacted = g'.redacted := by
  obtain ⟨come, left⟩ := alike
  exact ⟨(work.run f).1, (work.run f).2, (other.run g).2, rfl, Prod.ext come.symm rfl, left⟩

theorem AlikeAt.bind {work other : Act α} {next after : α → Act β} {f g : Follower}
    (first : AlikeAt work other f g) (rest : ∀ value, Alike (next value) (after value)) :
    AlikeAt (work >>= next) (other >>= after) f g := by
  obtain ⟨result, f', g', came, came', left⟩ := first.outcome
  unfold AlikeAt
  rw [run_bind, run_bind, came, came']
  cases result with
  | error stop => exact ⟨rfl, left⟩
  | ok value => exact rest value f' g' left

theorem alike_bind {work other : Act α} {next after : α → Act β} (first : Alike work other)
    (rest : ∀ value, Alike (next value) (after value)) : Alike (work >>= next) (other >>= after) :=
  fun f g same => (first f g same).bind rest

theorem alike_map {work other : Act α} (change : α → β) (alike : Alike work other) :
    Alike (change <$> work) (change <$> other) := by
  rw [map_eq_pure_bind, map_eq_pure_bind]
  exact alike_bind alike fun value => alike_pure _

/-- Work that goes on with what of the follower is no secret. -/
theorem alike_get {next after : Follower → Act α} (clear : ∀ f, next f = next f.redacted)
    (clear' : ∀ f, after f = after f.redacted) (each : ∀ f, Alike (next f) (after f)) :
    Alike (get >>= next) (get >>= after) := by
  intro f g same
  unfold AlikeAt
  rw [run_bind, run_bind, run_get, run_get]
  dsimp only
  -- What comes next is read off the same follower on both sides, the one without secrets.
  rw [clear f, clear' g, ← same]
  exact each f.redacted f g same

theorem blind_become {change : Follower → Follower} {next : Follower → Act β}
    (commutes : ∀ f, (change f).redacted = change f.redacted)
    (clear : ∀ f, next f = next f.redacted) (each : ∀ f, Blind (next f)) :
    Blind (do
      let f ← get
      set (change f)
      next f) := by
  intro f g same
  have changed : (change f).redacted = (change g).redacted := by rw [commutes, commutes, same]
  have done := each f.redacted _ _ changed
  have first : (do let f ← get; set (change f); next f : Act β).run f =
    (next f).run (change f) := rfl
  have second : (do let f ← get; set (change f); next f : Act β).run g =
    (next g).run (change g) := rfl
  unfold AlikeAt
  rw [first, second, clear f, clear g, ← same]
  exact done

theorem blind_fault (place : Place) : Blind (fault place) := by
  intro f g same
  have faults : f.fault? place = g.fault? place :=
    Follower.clear_eq (Follower.fault? · place) (fun _ => rfl) same
  unfold AlikeAt
  rw [run_fault, run_fault, faults]
  rcases g.fault? place with _ | e | text <;> exact ⟨rfl, same⟩

theorem blind_panicAt (place : Place) : Blind (panicAt place) :=
  alike_bind (blind_fault place) fun _ => alike_pure _

/-- A call of a collaborator that can be set up to fail. -/
theorem blind_called {place : Place} {rest : Option WalletError → Act (Except WalletError α)}
    (failing : ∀ e, rest (some e) = pure (.error e)) (going : Blind (rest none)) :
    Blind (fault place >>= rest) := by
  refine alike_bind (blind_fault place) fun found => ?_
  cases found with
  | some e =>
    rw [failing]
    exact alike_pure _
  | none => exact going

end Act

namespace Follower

open Act

section
variable {f g : Follower} (same : f.redacted = g.redacted)
include same

theorem redacted_notes {happening other : Happening} (alike : happening.redacted = other.redacted) :
    (f.note happening).redacted = (g.note other).redacted := by
  have noted (k : Follower) (h : Happening) :
    (k.note h).redacted = k.redacted.note h.redacted := rfl
  rw [noted, noted, alike, same]

theorem redacted_note (happening : Happening) :
    (f.note happening).redacted = (g.note happening).redacted :=
  redacted_notes same rfl

end

theorem blind_setWalletLink (link : Option Link) : Blind (setWalletLink link) :=
  alike_bind (blind_update fun _ => rfl) fun _ =>
    alike_bind (blind_panicAt _) fun _ => blind_update fun _ => rfl

theorem blind_setLoaderLink (link : Option Link) : Blind (setLoaderLink link) :=
  alike_bind (blind_update fun _ => rfl) fun _ =>
    alike_bind (blind_panicAt _) fun _ => blind_update fun _ => rfl

theorem blind_walletExists : Blind walletExists :=
  blind_called (fun _ => rfl) (alike_get (fun _ => rfl) (fun _ => rfl) fun _ => alike_pure _)

theorem blind_unloadWallet : Blind unloadWallet := by
  refine alike_bind (blind_update fun _ => rfl) fun _ => blind_called (fun _ => rfl) ?_
  exact alike_bind (blind_update fun _ => rfl) fun _ => alike_pure _

theorem blind_blockInfo (height : Height) : Blind (blockInfo height) := by
  refine alike_bind (blind_update fun _ => rfl) fun _ => blind_called (fun _ => rfl) ?_
  refine alike_get (fun _ => rfl) (fun _ => rfl) fun f => ?_
  cases f.wallet.blockTime with
  | none => exact alike_pure _
  | some time => exact alike_pure _

theorem blind_nextAddress : Blind nextAddress := by
  refine blind_called (fun _ => rfl) (alike_get (fun _ => rfl) (fun _ => rfl) fun f => ?_)
  exact alike_bind (blind_update fun _ => rfl) fun _ => alike_pure _

theorem blind_initIndex (path : String) : Blind (initIndex path) := by
  refine alike_bind (blind_update fun _ => rfl) fun _ => blind_called (fun _ => rfl) ?_
  refine alike_bind blind_nextAddress fun made => ?_
  cases made with
  | error e => exact alike_pure _
  | ok address =>
    refine alike_bind (blind_update fun _ => rfl) fun _ => ?_
    refine alike_get (fun _ => rfl) (fun _ => rfl) fun f => ?_
    exact alike_bind (blind_update fun _ => rfl) fun _ => alike_pure _

theorem blind_closeIndex (number : Nat) : Blind (closeIndex number) :=
  alike_bind (blind_update fun _ => rfl) fun _ => blind_called (fun _ => rfl) (alike_pure _)

theorem blind_makeSpvSyncer : Blind makeSpvSyncer := by
  refine alike_get (fun _ => rfl) (fun _ => rfl) fun f => ?_
  refine alike_bind (blind_update fun _ => rfl) fun _ => ?_
  refine alike_bind (blind_update fun _ => rfl) fun _ => alike_bind (blind_panicAt _) fun _ => ?_
  exact alike_bind (blind_update fun _ => rfl) fun _ => alike_pure _

theorem blind_makeRpcSyncer (client : Client) : Blind (makeRpcSyncer client) := by
  refine alike_get (fun _ => rfl) (fun _ => rfl) fun f => ?_
  refine alike_bind (blind_update fun _ => rfl) fun _ => ?_
  refine alike_bind (blind_update fun _ => rfl) fun _ => alike_bind (blind_panicAt _) fun _ => ?_
  exact alike_bind (blind_update fun _ => rfl) fun _ => alike_pure _

/-- Two happenings that only differ in secrets. -/
theorem alike_note {happening other : Happening} (alike : happening.redacted = other.redacted) :
    Alike (update fun f => f.note happening) (update fun f => f.note other) :=
  alike_update fun _ _ same => redacted_notes same alike

theorem alike_makeClient {params other : ServerParams} (alike : params.redacted = other.redacted) :
    Alike (makeClient params) (makeClient other) := by
  have shown : (Happening.saw (.rpcClient params)).redacted = .redacted (.saw (.rpcClient other)) :=
    congrArg (Happening.saw ∘ Sight.rpcClient) alike
  refine alike_bind (alike_note shown) fun _ => blind_called (fun _ => rfl) ?_
  refine alike_get (fun _ => rfl) (fun _ => rfl) fun f => ?_
  exact alike_bind (blind_update fun _ => rfl) fun _ => alike_pure _

theorem blind_orFail {α : Type} (result : Except WalletError α) : Blind (orFail result) := by
  cases result with
  | ok value => exact alike_pure value
  | error e => exact alike_fail _

theorem blind_exists? : Blind exists? :=
  alike_bind blind_walletExists blind_orFail

theorem blind_dropIndex : Blind dropIndex := by
  refine alike_get (fun _ => rfl) (fun _ => rfl) fun f => ?_
  cases f.index with
  | none => exact alike_pure _
  | some number =>
    refine alike_bind (blind_update fun _ => rfl) fun _ => ?_
    refine alike_bind (blind_closeIndex number) fun came => ?_
    cases came with
    | ok _ => exact alike_pure _
    | error e => exact blind_update fun _ => rfl

theorem blind_unlink : Blind unlink := by
  refine alike_get (fun _ => rfl) (fun _ => rfl) fun f => ?_
  dsimp only
  split
  · exact alike_bind (blind_setWalletLink none) fun _ => blind_setLoaderLink none
  · exact blind_setLoaderLink none

theorem blind_close : Blind close := by
  refine alike_bind blind_unlink fun _ => alike_bind blind_dropIndex fun _ => ?_
  refine alike_bind blind_unloadWallet fun came => alike_bind (blind_orFail came) fun _ => ?_
  exact blind_update fun _ => rfl

theorem blind_bestTimestamp : Blind bestTimestamp := by
  refine alike_get (fun _ => rfl) (fun _ => rfl) fun f => ?_
  split
  · refine alike_bind (blind_blockInfo _) fun came => ?_
    cases came with
    | ok block => exact alike_bind (blind_update fun _ => rfl) fun _ => alike_pure _
    | error e => exact alike_bind (blind_update fun _ => rfl) fun _ => alike_pure _
  · exact alike_pure _

theorem normalizeEach_redacted (port : UInt16) (peers : List String) (f : Follower) :
    normalizeEach port peers f.redacted =
      ((normalizeEach port peers f).1, (normalizeEach port peers f).2.redacted) := by
  induction peers generalizing f with
  | nil => rfl
  | cons peer rest ih =>
    unfold normalizeEach
    split
    · simp only [ih f]
    · rename_i e _
      have logged : f.redacted.log (.peerInvalid e) = (f.log (.peerInvalid e)).redacted := rfl
      rw [logged, ← redacted_broadcast]
      exact ih _

theorem blind_normalizePeers (peers : List String) : Blind (normalizePeers peers) := by
  unfold normalizePeers
  split
  · exact alike_pure _
  · have each (f : Follower) := normalizeEach_redacted f.config.network.peerPort peers f
    refine blind_become (fun f => (congrArg Prod.snd (each f)).symm) (fun f => ?_) fun f => ?_
    · have config : f.redacted.config = f.config := rfl
      rw [config, each f]
    · split
      · exact alike_fail _
      · exact alike_pure _

theorem blind_setNotifications (syncer : Syncer) : Blind (setNotifications syncer) :=
  alike_bind (blind_update fun _ => rfl) fun _ => blind_panicAt _

theorem blind_restrictPeers (syncer : Syncer) (addresses : List String) :
    Blind (restrictPeers syncer addresses) := by
  unfold restrictPeers
  split
  · refine alike_bind (blind_update fun _ => rfl) fun _ => ?_
    exact alike_bind (blind_update fun _ => rfl) fun _ => blind_panicAt _
  · exact alike_pure _

theorem blind_buildSpv (peers : List String) : Blind (buildSpv peers) := by
  refine alike_bind (blind_normalizePeers peers) fun addresses => ?_
  refine alike_bind blind_makeSpvSyncer fun number => ?_
  refine alike_bind (blind_setNotifications _) fun _ => ?_
  exact alike_bind (blind_restrictPeers _ addresses) fun _ => alike_pure _

theorem blind_buildRpc (client : Client) : Blind (buildRpc client) := by
  refine alike_bind (blind_makeRpcSyncer client) fun number => ?_
  exact alike_bind (blind_setNotifications _) fun _ => alike_pure _

theorem blind_connected (attempt : Nat) (client : Client) (address : String)
    (reply : Reply ConnectError) : Blind (connected attempt client address reply) := by
  cases reply with
  | panic text => exact alike_throw _
  | error e =>
    refine alike_bind (blind_update fun _ => rfl) fun _ => ?_
    exact alike_get (fun _ => rfl) (fun _ => rfl) fun f => alike_fail _
  | ok =>
    refine alike_bind (blind_update fun _ => rfl) fun _ => ?_
    refine blind_become (fun f => redacted_keepClient f client) (fun f => ?_) fun f => ?_
    · rfl
    · exact blind_buildRpc _

/-- Certificates of which only the bytes differ. -/
theorem wiped_certificate {certificate other : Option Bytes}
    (alike : certificate.map Passphrase.wiped = other.map Passphrase.wiped) :
    Passphrase.wiped (certificate.getD []) = Passphrase.wiped (other.getD []) := by
  cases certificate with
  | none => cases other with
    | none => rfl
    | some bytes => contradiction
  | some bytes => cases other with
    | none => contradiction
    | some others => exact Option.some.inj alike

theorem wiped_isEmpty {bytes other : Bytes}
    (alike : Passphrase.wiped bytes = Passphrase.wiped other) : bytes.isEmpty = other.isEmpty := by
  have empty (bytes : Bytes) : (Passphrase.wiped bytes).isEmpty = bytes.isEmpty := List.isEmpty_map
  rw [← empty bytes, alike, empty]

theorem alike_connect (attempt : Nat) (address username password password' : String)
    {certificate certificate' : Bytes}
    (alike : Passphrase.wiped certificate = Passphrase.wiped certificate') :
    Alike (connect attempt address username password certificate)
      (connect attempt address username password' certificate') := by
  refine alike_get (fun _ => rfl) (fun _ => rfl) fun f => ?_
  dsimp only
  split
  · exact alike_fail _
  · rename_i endpoint _
    have params : ServerParams.redacted ⟨f.config.network, endpoint.render, username, password,
          certificate, certificate.isEmpty⟩ =
        ServerParams.redacted ⟨f.config.network, endpoint.render, username, password',
          certificate', certificate'.isEmpty⟩ := by
      delta ServerParams.redacted
      dsimp only
      rw [alike, wiped_isEmpty alike]
    refine alike_bind (blind_update fun _ => rfl) fun _ => ?_
    refine alike_bind (alike_makeClient params) fun made => ?_
    cases made with
    | error e => exact alike_fail _
    | ok client =>
      refine alike_bind (blind_update fun _ => rfl) fun _ => ?_
      refine alike_get (fun _ => rfl) (fun _ => rfl) fun f => ?_
      split
      · exact alike_map some (blind_connected attempt client _ _)
      · exact alike_bind (blind_update fun _ => rfl) fun _ => alike_pure _

theorem alike_build (attempt : Nat) {config other : BackendConfig}
    (alike : config.redacted = other.redacted) :
    Alike (build attempt config) (build attempt other) := by
  cases config with
  | spv peers => cases other with
    | spv others =>
      obtain rfl : peers = others := BackendConfig.spv.inj alike
      exact alike_map some (blind_buildSpv peers)
    | rpc => contradiction
  | rpc address username password certificate => cases other with
    | spv peers => contradiction
    | rpc address' username' password' certificate' =>
      obtain ⟨rfl, rfl, _, certificates⟩ := BackendConfig.rpc.inj alike
      refine alike_get (fun _ => rfl) (fun _ => rfl) fun f => ?_
      split
      · rename_i client _
        refine alike_bind (blind_update fun _ => rfl) fun _ => ?_
        exact alike_map some (blind_buildRpc client)
      · exact alike_connect attempt address username _ _ (wiped_certificate certificates)

theorem blind_attach (backend : Backend) : Blind (attach backend) := by
  refine alike_bind (blind_setWalletLink _) fun _ => alike_bind (blind_setLoaderLink _) fun _ => ?_
  exact alike_bind (blind_update fun _ => rfl) fun _ => blind_update fun _ => rfl

theorem blind_launch (attempt : Nat) (backend : Backend) : Blind (launch attempt backend) := by
  have counted : Blind (do
      let number := (← get).counts.syncs + 1
      Act.update (fun f => { f with
        counts := { f.counts with syncs := number }
        runs := f.runs ++ [⟨number, attempt, backend, false⟩] })
      pure number : Act Nat) := by
    refine alike_get (fun _ => rfl) (fun _ => rfl) fun f => ?_
    exact alike_bind (blind_update fun _ => rfl) fun _ => alike_pure _
  refine alike_bind (blind_panicAt _) fun _ => alike_bind (blind_attach backend) fun _ => ?_
  split
  · exact alike_bind (blind_update fun f => redacted_broadcast f _) fun _ => counted
  · exact counted

theorem redacted_stopped {f g : Follower} (same : f.redacted = g.redacted) (stop : Stop) :
    (f.warn stop).abortStart.redacted = (g.warn stop).abortStart.redacted := by
  have warned (k : Follower) : (k.warn stop).redacted = k.redacted.warn stop := by
    cases stop <;> rfl
  rw [redacted_abortStart, redacted_abortStart, warned, warned, same]

theorem redacted_entered {config other : BackendConfig} (alike : config.redacted = other.redacted)
    {f g : Follower} (same : f.redacted = g.redacted) :
    (f.entered config).redacted = (g.entered other).redacted := by
  have entered (k : Follower) (config : BackendConfig) :
      (k.entered config).redacted = k.redacted.entered config.redacted := rfl
  rw [entered, entered, alike, same]

theorem alike_startSync {config other : BackendConfig} (alike : config.redacted = other.redacted) :
    Alike (startSync config) (startSync other) := by
  intro f g same
  have barrier := clear_eq startBarrier? (fun _ => rfl) same
  have counts := clear_eq counts (fun _ => rfl) same
  unfold AlikeAt
  rw [run_startSync, run_startSync, barrier, counts]
  cases g.startBarrier? with
  | some e => exact ⟨rfl, same⟩
  | none =>
    obtain ⟨result, f', g', came, came', left⟩ :=
      (alike_build (g.counts.startAttempts + 1) alike _ _ (redacted_entered alike same)).outcome
    dsimp only
    rw [came, came']
    rcases result with stop | _ | backend
    · exact ⟨rfl, redacted_stopped left stop⟩
    · exact ⟨rfl, left⟩
    · exact alike_map Started.launched (blind_launch _ backend) f' g' left

theorem blind_resumeStart (start : PendingStart) (reply : Reply ConnectError) :
    Blind (resumeStart start reply) := by
  intro f g same
  obtain ⟨result, f', g', came, came', left⟩ :=
    (blind_connected start.attempt start.client start.address reply f g same).outcome
  unfold AlikeAt
  rw [run_resumeStart, run_resumeStart, came, came']
  cases result with
  | error stop => exact ⟨rfl, redacted_stopped left stop⟩
  | ok backend => exact blind_launch start.attempt backend f' g' left

theorem blind_detach : Blind detach := by
  refine alike_bind (blind_update fun _ => rfl) fun _ => ?_
  refine alike_bind (blind_setWalletLink none) fun _ => ?_
  exact alike_bind (blind_setLoaderLink none) fun _ => blind_update fun _ => rfl

theorem blind_concludeRun (backend : Backend) (result : Option RunError) :
    Blind (concludeRun backend result) := by
  have ended : Blind (do
      detach
      Act.update (fun f => f.reportEnd backend.kind result)
      pure (SyncOutcome.ofRun result) : Act SyncOutcome) := by
    refine alike_bind blind_detach fun _ => ?_
    exact alike_bind (blind_update fun f => redacted_reportEnd f _ _) fun _ => alike_pure _
  refine alike_bind (blind_update fun _ => rfl) fun _ => ?_
  dsimp only
  split
  · exact alike_bind (blind_update redacted_invalidateCache) fun _ => ended
  · exact ended

theorem blind_endRun (run : RunLoop) (reply : Reply RunError) : Blind (endRun run reply) := by
  cases reply with
  | ok => exact blind_concludeRun _ _
  | error e => exact blind_concludeRun _ _
  | panic text => exact alike_throw _

section
variable {f g : Follower} (same : f.redacted = g.redacted)
include same

theorem redacted_finishStart (start : PendingStart) (reply : Reply ConnectError) :
    (f.finishStart start reply).redacted = (g.finishStart start reply).redacted := by
  have starts := clear_eq starts (fun _ => rfl) same
  let rest := g.starts.filter (fun other => other.attempt != start.attempt)
  have taken : redacted { f with starts := rest } = redacted { g with starts := rest } :=
    congrArg (fun k : Follower => { k with starts := rest }) same
  obtain ⟨result, f', g', came, came', left⟩ := (blind_resumeStart start reply _ _ taken).outcome
  unfold finishStart
  rw [starts]
  dsimp only
  rw [came, came']
  cases result with
  | ok number => exact redacted_note left _
  | error stop => exact redacted_note left _

theorem redacted_finishRun (run : RunLoop) (reply : Reply RunError) :
    (f.finishRun run reply).redacted = (g.finishRun run reply).redacted := by
  have runs := clear_eq runs (fun _ => rfl) same
  let rest := g.runs.filter (fun other => other.number != run.number)
  have taken : redacted { f with runs := rest } = redacted { g with runs := rest } :=
    congrArg (fun k : Follower => { k with runs := rest }) same
  obtain ⟨result, f', g', came, came', left⟩ := (blind_endRun run reply _ _ taken).outcome
  unfold finishRun
  rw [runs]
  dsimp only
  rw [came, came']
  rcases result with (e | text) | outcome
  · exact redacted_note left _
  · exact redacted_note left _
  · exact redacted_note left _

theorem redacted_abandonStart :
    f.abandonStart.1.redacted = g.abandonStart.1.redacted ∧
      f.abandonStart.2 = g.abandonStart.2 := by
  have starts := clear_eq starts (fun _ => rfl) same
  unfold abandonStart
  rw [starts]
  cases g.starts with
  | nil => exact ⟨same, rfl⟩
  | cons start rest =>
    have taken : redacted { f with starts := rest } = redacted { g with starts := rest } :=
      congrArg (fun k : Follower => { k with starts := rest }) same
    refine ⟨redacted_note ?_ _, rfl⟩
    rw [redacted_abortStart, redacted_abortStart, taken]

end

end Follower

end ChainFollower

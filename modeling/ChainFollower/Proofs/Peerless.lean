import ChainFollower.Proofs.Course

/-! Work that has nothing to do with syncers of peers: no move but the start of one and the call of a
run has. -/
namespace ChainFollower

def Event.isPeer : Event → Bool
  | peerConnected _ => true
  | peerDisconnected _ => true
  | _ => false

def Move.Opens : Move → Prop
  | .step taken => taken.Opens
  | _ => False

def Move.Reports : Move → Prop
  | .step (.start _) => True
  | .step (.notify _) => True
  | .notice _ _ => True
  | .connection _ _ => True
  | .call _ => True
  | _ => False

def Move.Peers : Move → Prop
  | .step (.start config) => config.kind = .spv
  | .call _ => True
  | _ => False

theorem Event.TellsScan.unpeered {event : Event} (scan : event.TellsScan) :
    event.isPeer = false := by
  cases event with
  | peerConnected count => exact scan.elim
  | peerDisconnected count => exact scan.elim
  | _ => rfl

def Sight.syncer? : Sight → Option Syncer
  | spvSyncer syncer _ => some syncer
  | rpcSyncer syncer _ => some syncer
  | notifications syncer => some syncer
  | peers syncer _ => some syncer
  | run syncer _ => some syncer
  | _ => none

def Happening.Ordinary (opens : Prop) : Happening → Prop
  | heard _ _ => False
  | saw (.indexClose _) => opens
  | saw sight => ∀ syncer ∈ sight.syncer?, syncer.kind = .rpc
  | _ => True

namespace Follower

open Act

def marked (f : Follower) (number : Nat) : Follower :=
  { f with runs := f.runs.map (fun other =>
    if other.number = number then { other with begun := true } else other) }

/-- Work that makes no syncer of peers and calls none. It loads and opens nothing and changes no
public passphrase unless it `opens`, and tells nobody of peers unless it `reports`. -/
inductive Peerless (opens reports : Prop) : Follower → Follower → Prop where
  | same {f g : Follower}
      (rest : (g.listeners, g.vault, g.counts.spvSyncers, g.runs, g.history) =
        (f.listeners, f.vault, f.counts.spvSyncers, f.runs, f.history)) : Peerless opens reports f g
  | calls {f g : Follower} (calls : CallsOnly opens f g) : Peerless opens reports f g
  | rescans {f g : Follower} (rescans : Rescans f g) : Peerless opens reports f g
  | note (f : Follower) {happening : Happening} (ordinary : happening.Ordinary opens) :
    Peerless opens reports f (f.note happening)
  | told {f g : Follower} {sent : Event → Prop} (told : Told sent f g)
      (others : ∀ event, sent event → event.isPeer = true → reports) : Peerless opens reports f g
  | runs (f : Follower) {runs : List RunLoop}
      (known : ∀ run ∈ runs, run.backend.kind = .spv →
        ∃ earlier ∈ f.runs, earlier.backend = run.backend) :
    Peerless opens reports f { f with runs := runs }
  | trans {f g h : Follower} (first : Peerless opens reports f g) (second : Peerless opens reports g h) :
    Peerless opens reports f h

namespace Peerless

variable {opens reports : Prop} {f g : Follower}

theorem refl (f : Follower) : Peerless opens reports f f := same rfl

instance : Std.Refl (Peerless opens reports) := ⟨refl⟩

instance : IsTrans Follower (Peerless opens reports) := ⟨fun _ _ _ => trans⟩

theorem log (f : Follower) (record : LogRecord) : Peerless opens reports f (f.log record) :=
  note f trivial

theorem broadcast (f : Follower) (event : Event) (may : event.isPeer = true → reports) :
    Peerless opens reports f (f.broadcast event) := by
  refine told (Told.broadcast event f) ?_
  rintro heard (rfl | rfl)
  · exact may
  · exact nofun

theorem broadcast_plain (f : Follower) (event : Event) (plain : event.isPeer = false) :
    Peerless opens reports f (f.broadcast event) :=
  broadcast f event fun peer => absurd (plain.symm.trans peer) Bool.false_ne_true

theorem silent (told : Told (fun _ => False) f g) : Peerless opens reports f g :=
  .told told fun _ none => none.elim

theorem setState (f : Follower) (state : SyncState) :
    Peerless opens reports f (f.setState state) := by
  have assigned : Peerless opens reports f
      { f with session := { f.session with state := state } } := same rfl
  exact assigned.trans (note _ trivial)

theorem setWalletLink (link : Option Link) :
    Keeps (Peerless opens reports) (setWalletLink link) := by
  refine keeps_bind (keeps_update fun f => note f nofun) fun _ => ?_
  exact keeps_bind (keeps_panicAt _) fun _ => keeps_update fun f => same rfl

theorem setLoaderLink (link : Option Link) :
    Keeps (Peerless opens reports) (setLoaderLink link) := by
  refine keeps_bind (keeps_update fun f => note f nofun) fun _ => ?_
  exact keeps_bind (keeps_panicAt _) fun _ => keeps_update fun f => same rfl

theorem close : Keeps (Peerless True reports) Follower.close :=
  keeps_close calls (fun f _ => note f trivial) (setWalletLink none) (setLoaderLink none)

theorem cancelQuietly (f : Follower) : Peerless opens reports f f.cancelQuietly := by
  unfold Follower.cancelQuietly
  split <;> exact same rfl

theorem cancelTasks (f : Follower) : Peerless opens reports f f.cancelQuietly.cancelRescan :=
  (cancelQuietly f).trans (silent (Told.cancelRescan _))

theorem keepClient (f : Follower) (client : Client) :
    Peerless opens reports f (f.keepClient client).1 := by
  have stored : Peerless opens reports f { f with cache := (ClientCache.store f.cache client).1 } :=
    same rfl
  unfold Follower.keepClient
  dsimp only
  split
  · exact stored.trans (log _ .clientDiscarded)
  · exact stored

theorem invalidateCache (f : Follower) : Peerless opens reports f f.invalidateCache := by
  have dropped : Peerless opens reports f { f with cache := (ClientCache.invalidate f.cache).1 } :=
    same rfl
  unfold Follower.invalidateCache
  dsimp only
  split
  · exact dropped.trans (log _ .cacheInvalidated)
  · exact dropped

theorem makeClient (params : ServerParams) :
    Keeps (Peerless opens reports) (makeClient params) := by
  refine keeps_bind (keeps_update fun f => note f nofun) fun _ => ?_
  refine keeps_bind (keeps_fault _) fun found => ?_
  cases found with
  | some e => exact keeps_pure _
  | none =>
    refine keeps_bind keeps_get fun f => ?_
    exact keeps_bind (keeps_update fun f => same rfl) fun _ => keeps_pure _

theorem makeRpcSyncer (client : Client) :
    Keeps (Peerless opens reports) (makeRpcSyncer client) := by
  refine keeps_bind keeps_get fun f => ?_
  refine keeps_bind (keeps_update fun f => same rfl) fun _ => ?_
  refine keeps_bind (keeps_update fun f => note f (by rintro _ ⟨⟩; rfl)) fun _ => ?_
  refine keeps_bind (keeps_panicAt _) fun _ => ?_
  exact keeps_bind (keeps_update fun f => same rfl) fun _ => keeps_pure _

theorem buildRpc (client : Client) : Keeps (Peerless opens reports) (buildRpc client) := by
  refine keeps_bind (makeRpcSyncer client) fun number => ?_
  have told : Keeps (Peerless opens reports) (setNotifications ⟨.rpc, number⟩) :=
    keeps_bind (keeps_update fun f => note f (by rintro _ ⟨⟩; rfl)) fun _ => keeps_panicAt _
  exact keeps_bind told fun _ => keeps_pure _

theorem connected (attempt : Nat) (client : Client) (address : String)
    (reply : Reply ConnectError) :
    Keeps (Peerless opens reports) (connected attempt client address reply) := by
  cases reply with
  | panic text => exact keeps_throw _
  | error e =>
    refine keeps_bind (keeps_update fun f => log f _) fun _ => ?_
    exact keeps_bind keeps_get fun f => keeps_fail _
  | ok =>
    refine keeps_bind (keeps_update fun f => log f _) fun _ => ?_
    exact keeps_become (fun f => keepClient f client) fun f => buildRpc _

theorem connect (attempt : Nat) (address username password : String) (certificate : Bytes) :
    Keeps (Peerless opens reports) (connect attempt address username password certificate) := by
  refine keeps_bind keeps_get fun f => ?_
  dsimp only
  split
  · exact keeps_fail _
  · refine keeps_bind (keeps_update fun f => log f _) fun _ => ?_
    refine keeps_bind (makeClient _) fun made => ?_
    cases made with
    | error e => exact keeps_fail _
    | ok client =>
      refine keeps_bind (keeps_update fun f => note f nofun) fun _ => ?_
      refine keeps_bind keeps_get fun f => ?_
      split
      · exact keeps_map some (connected attempt client _ _)
      · exact keeps_bind (keeps_update fun f => same rfl) fun _ => keeps_pure _

theorem build (attempt : Nat) {config : BackendConfig} (server : config.kind = .rpc) :
    Keeps (Peerless opens reports) (build attempt config) := by
  cases config with
  | spv peers => contradiction
  | rpc address username password certificate =>
    refine keeps_bind keeps_get fun f => ?_
    split
    · refine keeps_bind (keeps_update fun f => log f _) fun _ => ?_
      exact keeps_map some (buildRpc _)
    · exact connect attempt address username password _

theorem entered (f : Follower) (config : BackendConfig) :
    Peerless opens reports f (f.entered config) := by
  let begun := f.setState .starting
  have counted : Peerless opens reports begun { begun with
      counts := { begun.counts with startAttempts := f.counts.startAttempts + 1 } } := same rfl
  exact ((setState f .starting).trans counted).trans ((log _ (.starting config)).trans (same rfl))

theorem warn (f : Follower) (stop : Stop) : Peerless opens reports f (f.warn stop) := by
  cases stop with
  | failed e => exact log f _
  | panicked text => exact refl f

theorem abortStart (f : Follower) : Peerless opens reports f f.abortStart := by
  have cleared : Peerless opens reports f.cancelQuietly
      { f.cancelQuietly with session := { f.session with token := none, backend := none } } :=
    same rfl
  exact ((cancelQuietly f).trans cleared).trans (setState _ .idle)

theorem attach (backend : Backend) : Keeps (Peerless opens reports) (attach backend) := by
  refine keeps_bind (setWalletLink _) fun _ => keeps_bind (setLoaderLink _) fun _ => ?_
  refine keeps_bind (keeps_update fun f => ?_) fun _ => keeps_update fun f => setState f .running
  exact same rfl

/-- Listeners are told at once that nothing will be known of peers. -/
theorem launch (attempt : Nat) {backend : Backend} (server : backend.kind = .rpc) :
    Keeps (Peerless opens True) (launch attempt backend) := by
  have counted : Keeps (Peerless opens True) (do
      let number := (← get).counts.syncs + 1
      Act.update (fun f => { f with
        counts := { f.counts with syncs := number }
        runs := f.runs ++ [⟨number, attempt, backend, false⟩] })
      pure number : Act Nat) := by
    refine keeps_bind keeps_get fun f => keeps_bind (keeps_update fun g => ?_) fun _ => keeps_pure _
    have number : Peerless opens True g
        { g with counts := { g.counts with syncs := f.counts.syncs + 1 } } := same rfl
    refine number.trans (runs _ fun run member spv => ?_)
    rcases List.mem_append.mp member with old | new
    · exact ⟨run, old, rfl⟩
    · rw [List.mem_singleton.mp new, server] at spv
      contradiction
  refine keeps_bind (keeps_panicAt _) fun _ => keeps_bind (attach backend) fun _ => ?_
  split
  · exact keeps_bind (keeps_update fun f => broadcast f _ fun _ => trivial) fun _ => counted
  · exact counted

theorem startSync {config : BackendConfig} (server : config.kind = .rpc) :
    Keeps (Peerless opens True) (startSync config) := by
  intro f
  rw [run_startSync]
  cases f.startBarrier? with
  | some e => exact refl f
  | none =>
    let attempt := f.counts.startAttempts + 1
    have built : Peerless opens True f
        ((Follower.build attempt config).run (f.entered config)).2 :=
      (entered f config).trans (build attempt server (f.entered config))
    dsimp only
    split
    · rename_i backend g came
      rw [came] at built
      have fits : backend.kind = config.kind := yields_build attempt config _ _ _ came
      have launched : Keeps (Peerless opens True)
          (Started.launched <$> Follower.launch attempt backend) :=
        keeps_map _ (launch attempt (fits.trans server))
      exact built.trans (launched g)
    · rename_i g came
      rw [came] at built
      exact built
    · rename_i stop g came
      rw [came] at built
      exact (built.trans (warn g stop)).trans (abortStart _)

theorem finishStart (f : Follower) (start : PendingStart) (reply : Reply ConnectError) :
    Peerless opens True f (f.finishStart start reply) := by
  rw [finishStart_eq]
  let rest := f.starts.filter (fun other => other.attempt != start.attempt)
  have taken : Peerless opens True f { f with starts := rest } := same rfl
  have resumed : Peerless opens True { f with starts := rest }
      ((resumeStart start reply).run { f with starts := rest }).2 := by
    have built : Peerless opens True _ _ :=
      connected start.attempt start.client start.address reply { f with starts := rest }
    rw [run_resumeStart]
    split
    · rename_i backend g came
      rw [came] at built
      have server : backend.kind = .rpc := yields_connected _ _ _ _ _ _ _ came
      exact built.trans (launch start.attempt server g)
    · rename_i stop g came
      rw [came] at built
      exact (built.trans (warn g stop)).trans (abortStart _)
  exact (taken.trans resumed).trans (note _ trivial)

theorem abandonStart (f : Follower) : Peerless opens reports f f.abandonStart.1 := by
  unfold Follower.abandonStart
  split
  · exact refl f
  · rename_i rest _
    have taken : Peerless opens reports f { f with starts := rest } := same rfl
    exact (taken.trans (abortStart _)).trans (note _ trivial)

theorem detach : Keeps (Peerless opens reports) detach := by
  refine keeps_bind (keeps_update fun f => same rfl) fun _ => ?_
  refine keeps_bind (setWalletLink none) fun _ => keeps_bind (setLoaderLink none) fun _ => ?_
  exact keeps_update fun f => setState f .idle

theorem reportEnd (f : Follower) (kind : BackendKind) (result : Option RunError) :
    Peerless opens reports f (f.reportEnd kind result) := by
  rcases result with _ | _ | _ | text
  · exact log f _
  · exact (log f _).trans (broadcast_plain _ _ rfl)
  · exact (log f _).trans (broadcast_plain _ _ rfl)
  · exact (log f _).trans (broadcast_plain _ _ rfl)

theorem ending (f : Follower) (backend : Backend) (result : Option RunError) :
    Peerless opens reports f (f.ending backend result) := by
  unfold Follower.ending
  dsimp only
  split
  · exact (setState f _).trans (invalidateCache _)
  · exact setState f _

theorem finishRun (f : Follower) (run : RunLoop) (reply : Reply RunError) :
    Peerless opens reports f (f.finishRun run reply) := by
  have taken : Peerless opens reports f (f.withoutRun run) :=
    runs f fun other member _ => ⟨other, (List.mem_filter.mp member).1, rfl⟩
  have returned (result : Option RunError) :
      Peerless opens reports f (f.finishRun run (RunError.reply result)) := by
    have ended := taken.trans (ending (f.withoutRun run) run.backend result)
    have detached := ended.trans (detach ((f.withoutRun run).ending run.backend result))
    rw [finishRun_eq]
    split
    · rename_i g came
      rw [came] at detached
      exact (detached.trans (reportEnd g _ result)).trans (note _ trivial)
    · rename_i stop g came
      rw [came] at detached
      exact detached.trans (note _ trivial)
    · rename_i stop g came
      rw [came] at detached
      exact detached.trans (note _ trivial)
  cases reply with
  | ok => exact returned none
  | error e => exact returned (some e)
  | panic text => exact taken.trans (note _ trivial)

theorem notify (kind : BackendKind) (notification : Notification) (f : Follower) :
    Peerless opens True f (f.notify kind notification) :=
  related_notify log (fun f event _ => broadcast f event fun _ => trivial)
    (fun _ => setState _ _) kind notification f

theorem marked (f : Follower) (number : Nat) : Peerless opens reports f (f.marked number) := by
  refine runs f fun run member _ => ?_
  obtain ⟨earlier, inside, rfl⟩ := List.mem_map.mp member
  refine ⟨earlier, inside, ?_⟩
  split <;> rfl

theorem perform {step : Scenario.Step} (other : ¬ (Move.step step).Peers) (f : Follower) :
    Peerless step.Opens (Move.Reports (.step step)) f (step.perform f).2 := by
  -- Steps that spare the tasks are known to be calls only. The others are gone through one by one.
  by_cases spares : step.SparesTasks
  · exact calls (Scenario.Step.callsOnly_perform spares f)
  · cases step with
    | start config =>
      cases config with
      | spv peers => exact absurd rfl other
      | rpc address username password certificate => exact startSync rfl f
    | abandonStart => exact abandonStart f
    | close => exact close f
    | closeWallet => exact (cancelTasks f).trans (close _)
    | notify notification =>
      simp only [Scenario.Step.perform]
      split
      · exact refl f
      · exact notify _ _ f
    | fail place fault =>
      simp only [Scenario.Step.perform, Scenario.Step.setFault]
      split <;> exact same rfl
    | attach link => exact same rfl
    | cancelSync =>
      refine told (Told.cancelSync f) ?_
      rintro event rfl peer
      exact absurd peer Bool.false_ne_true
    | cancelRescan => exact silent (Told.cancelRescan f)
    | cacheStore =>
      have counted : Peerless False False f
          { f with counts := { f.counts with clients := f.counts.clients + 1 } } := same rfl
      exact counted.trans (keepClient _ _)
    | cacheInvalidate => exact invalidateCache f
    | shutdown => exact (log f .shutdownRequested).trans (same rfl)
    | addListener listener => exact silent (Told.addListener f listener)
    | startRescan => exact rescans (Rescans.startRescan f)
    | rescanScript script => exact same rfl
    | rescanFeed items ending =>
      simp only [Scenario.Step.perform, Scenario.Step.flagOf, Scenario.Step.feed]
      split
      · exact refl f
      · exact same rfl
    | _ => exact absurd ⟨trivial, id⟩ spares

theorem of_move {move : Move} (made : f.move? move = some g) (other : ¬ move.Peers) :
    Peerless move.Opens move.Reports f g := by
  cases move with
  | step step =>
    cases made
    exact perform other f
  | notice kind notification =>
    cases made
    exact notify kind notification f
  | connection attempt reply =>
    obtain ⟨start, _, rfl⟩ := Option.map_eq_some_iff.mp made
    exact finishStart f start reply
  | call number => exact absurd trivial other
  | runEnds number reply =>
    obtain ⟨run, _, ended⟩ := Option.bind_eq_some_iff.mp made
    split at ended
    · cases ended
      exact finishRun f run reply
    · contradiction
  | produce number =>
    have turned : f.rescanTurn Follower.produce number = some g := made
    exact rescans (Rescans.rescanTurn Rescans.produce turned)
  | consume number =>
    have turned : f.rescanTurn Follower.consume number = some g := made
    exact rescans (Rescans.rescanTurn Rescans.consume turned)

end Peerless

end Follower

end ChainFollower

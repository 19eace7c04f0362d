import ChainFollower.Proofs.SameTasksAndClient

/-! The building of a backend leaves the sync as it was, whatever it comes to: no link is given before
it is done, rescans are left alone, and what stops it is never what bars a start. A backend that is
built is of the kind of its configuration. -/
namespace ChainFollower

/-- Not an error by which a start is barred. -/
def Stop.Late : Stop → Prop
  | failed .walletNotLoaded => False
  | failed .syncAlreadyInProgress => False
  | _ => True

theorem Stop.late_panic (text : String) : (panicked text).Late := trivial

theorem SyncError.late_ofWallet (e : WalletError) : (Stop.failed (.ofWallet e)).Late := by
  cases e <;> trivial

namespace Follower

open Act

/-- Work that is part of the building of a backend: it takes every follower to a related one, and
does not stop by what bars a start. -/
structure BuildsBy (related : Follower → Follower → Prop) {α : Type} (work : Act α) : Prop where
  keeps : Keeps related work
  late : StopsBy Stop.Late work

section
variable {α β : Type} {related : Follower → Follower → Prop}

theorem BuildsBy.mono {wide : Follower → Follower → Prop} {work : Act α}
    (builds : BuildsBy related work) (wider : ∀ {f g}, related f g → wide f g) :
    BuildsBy wide work :=
  ⟨fun f => wider (builds.keeps f), builds.late⟩

theorem builds_update {change : Follower → Follower} (changes : ∀ f, related f (change f)) :
    BuildsBy related (update change) :=
  ⟨keeps_update changes, stopsBy_update change⟩

section
variable [Std.Refl related]

theorem builds_pure (value : α) : BuildsBy related (pure value : Act α) :=
  ⟨keeps_pure value, stopsBy_pure value⟩

theorem builds_get : BuildsBy related get :=
  ⟨keeps_get, stopsBy_get⟩

theorem builds_throw {stop : Stop} (late : stop.Late) : BuildsBy related (throw stop : Act α) :=
  ⟨keeps_throw stop, stopsBy_throw late⟩

theorem builds_fail {e : SyncError} (late : (Stop.failed e).Late) :
    BuildsBy related (fail e : Act α) :=
  ⟨keeps_fail e, stopsBy_fail late⟩

theorem builds_fault (place : Place) : BuildsBy related (fault place) :=
  ⟨keeps_fault place, stopsBy_fault Stop.late_panic place⟩

theorem builds_panicAt (place : Place) : BuildsBy related (panicAt place) :=
  ⟨keeps_panicAt place, stopsBy_panicAt Stop.late_panic place⟩

end

section
variable [IsTrans Follower related]

theorem builds_bind {work : Act α} {next : α → Act β} (first : BuildsBy related work)
    (rest : ∀ value, BuildsBy related (next value)) : BuildsBy related (work >>= next) :=
  ⟨keeps_bind first.keeps fun value => (rest value).keeps,
    stopsBy_bind first.late fun value => (rest value).late⟩

theorem builds_become {after : Follower → Follower} {next : Follower → Act β}
    (step : ∀ f, related f (after f)) (rest : ∀ f, BuildsBy related (next f)) :
    BuildsBy related (do
      let f ← get
      set (after f)
      next f) where
  keeps := keeps_become step fun f => (rest f).keeps
  late := stopsBy_bind stopsBy_get fun f => stopsBy_bind (stopsBy_set _) fun _ => (rest f).late

end

end

theorem ComplainsOnly.normalizeEach (port : UInt16) (peers : List String) (f : Follower) :
    ComplainsOnly False f (Follower.normalizeEach port peers f).2 := by
  induction peers generalizing f with
  | nil => exact refl f
  | cons peer rest ih =>
    unfold Follower.normalizeEach
    split
    · exact ih f
    · rename_i e _
      exact ((log f _).trans (complains _ e)).trans (ih _)

theorem builds_normalizePeers (peers : List String) :
    BuildsBy (ComplainsOnly False) (normalizePeers peers) := by
  unfold normalizePeers
  split
  · exact builds_pure _
  · refine builds_become (fun f => ComplainsOnly.normalizeEach _ peers f) fun f => ?_
    split
    · exact builds_fail trivial
    · exact builds_pure _

theorem builds_makeSpvSyncer : BuildsBy (ComplainsOnly False) makeSpvSyncer := by
  refine builds_bind builds_get fun f => ?_
  refine builds_bind (builds_update fun f => ComplainsOnly.same rfl) fun _ => ?_
  refine builds_bind (builds_update fun f => ComplainsOnly.saw f trivial) fun _ => ?_
  refine builds_bind (builds_panicAt _) fun _ => ?_
  exact builds_bind (builds_update fun f => ComplainsOnly.same rfl) fun _ => builds_pure _

theorem builds_makeRpcSyncer (client : Client) :
    BuildsBy (ComplainsOnly False) (makeRpcSyncer client) := by
  refine builds_bind builds_get fun f => ?_
  refine builds_bind (builds_update fun f => ComplainsOnly.same rfl) fun _ => ?_
  refine builds_bind (builds_update fun f => ComplainsOnly.saw f trivial) fun _ => ?_
  refine builds_bind (builds_panicAt _) fun _ => ?_
  exact builds_bind (builds_update fun f => ComplainsOnly.same rfl) fun _ => builds_pure _

theorem builds_setNotifications (syncer : Syncer) :
    BuildsBy (ComplainsOnly False) (setNotifications syncer) :=
  builds_bind (builds_update fun f => ComplainsOnly.saw f trivial) fun _ => builds_panicAt _

theorem builds_restrictPeers (syncer : Syncer) (addresses : List String) :
    BuildsBy (ComplainsOnly False) (restrictPeers syncer addresses) := by
  unfold restrictPeers
  split
  · refine builds_bind (builds_update fun f => ComplainsOnly.log f _) fun _ => ?_
    exact builds_bind (builds_update fun f => ComplainsOnly.saw f trivial) fun _ => builds_panicAt _
  · exact builds_pure _

theorem builds_buildSpv (peers : List String) :
    BuildsBy (ComplainsOnly False) (buildSpv peers) := by
  refine builds_bind (builds_normalizePeers peers) fun addresses => ?_
  refine builds_bind builds_makeSpvSyncer fun number => ?_
  refine builds_bind (builds_setNotifications _) fun _ => ?_
  exact builds_bind (builds_restrictPeers _ _) fun _ => builds_pure _

theorem builds_buildRpc (client : Client) : BuildsBy (ComplainsOnly False) (buildRpc client) := by
  refine builds_bind (builds_makeRpcSyncer client) fun number => ?_
  exact builds_bind (builds_setNotifications _) fun _ => builds_pure _

/-- Sync and rescans are the same, but a server may have been called and the client that is kept may be
another one. -/
inductive Dialled : Follower → Follower → Prop where
  | spared {f g : Follower} (spared : SameTasksAndClient f g) : Dialled f g
  | saw (f : Follower) {sight : Sight} (spares : (Happening.saw sight).SparesSync) :
    Dialled f (f.saw sight)
  | cached (f : Follower) (cache : ClientCache) : Dialled f { f with cache := cache }
  | trans {f g h : Follower} (first : Dialled f g) (second : Dialled g h) : Dialled f h

namespace Dialled

variable {f g : Follower}

theorem log (f : Follower) (record : LogRecord) : Dialled f (f.log record) :=
  spared (SameTasksAndClient.log f record)

theorem refl (f : Follower) : Dialled f f := spared (SameTasksAndClient.refl f)

instance : Std.Refl Dialled := ⟨refl⟩

instance : IsTrans Follower Dialled := ⟨fun _ _ _ => trans⟩

theorem sameTasks (dialled : Dialled f g) : SameTasks f g := by
  induction dialled with
  | spared spared => exact spared.sameTasks
  | saw f spares => exact SameTasks.saw f _ spares
  | cached f cache => exact SameTasks.of_same rfl
  | trans _ _ first second => exact first.trans second

theorem keepClient (f : Follower) (client : Client) : Dialled f (f.keepClient client).1 := by
  have stored := cached f (ClientCache.store f.cache client).1
  unfold Follower.keepClient
  dsimp only
  split
  · exact stored.trans (log _ .clientDiscarded)
  · exact stored

end Dialled

theorem BuildsBy.sameTasks {α : Type} {work : Act α} (builds : BuildsBy Dialled work) :
    Keeps SameTasks work :=
  fun f => (builds.keeps f).sameTasks

theorem BuildsBy.sameSync {α : Type} {work : Act α} (builds : BuildsBy Dialled work) :
    Keeps SameSync work :=
  fun f => (builds.sameTasks f).toSameSync

theorem BuildsBy.sameTasksAndClient {α : Type} {work : Act α}
    (builds : BuildsBy (ComplainsOnly False) work) : BuildsBy SameTasksAndClient work :=
  builds.mono ComplainsOnly.sameTasksAndClient

theorem BuildsBy.dialled {α : Type} {work : Act α} (builds : BuildsBy (ComplainsOnly False) work) :
    BuildsBy Dialled work :=
  builds.sameTasksAndClient.mono .spared

theorem builds_makeClient (params : ServerParams) : BuildsBy Dialled (makeClient params) := by
  refine builds_bind (builds_update fun f => Dialled.saw f trivial) fun _ => ?_
  refine builds_bind (builds_fault _) fun found => ?_
  cases found with
  | some e => exact builds_pure _
  | none =>
    refine builds_bind builds_get fun f => ?_
    refine builds_bind (builds_update fun f => ?_) fun _ => builds_pure _
    exact .spared (.same rfl)

theorem connectFailure_late (cancelled : Bool) (e : ConnectError) :
    (Stop.failed (connectFailure cancelled e)).Late := by
  cases e with
  | invalidAuth => trivial
  | canceled => trivial
  | other text => cases cancelled <;> trivial

theorem builds_connected (attempt : Nat) (client : Client) (address : String)
    (reply : Reply ConnectError) : BuildsBy Dialled (connected attempt client address reply) := by
  cases reply with
  | panic text => exact builds_throw trivial
  | error e =>
    refine builds_bind (builds_update fun f => Dialled.log f _) fun _ => ?_
    exact builds_bind builds_get fun f => builds_fail (connectFailure_late _ e)
  | ok =>
    refine builds_bind (builds_update fun f => Dialled.log f _) fun _ => ?_
    exact builds_become (fun f => Dialled.keepClient f client) fun f => (builds_buildRpc _).dialled

theorem run_connected_ok (attempt : Nat) (client : Client) (address : String) (f : Follower) :
    (connected attempt client address .ok).run f =
      (buildRpc ((f.log (.connected address)).keepClient client).2).run
        ((f.log (.connected address)).keepClient client).1 := rfl

inductive Built (attempt : Nat) (f : Follower) :
    Except Stop (Option Backend) × Follower → Prop where
  | ready (backend : Backend) {g : Follower} (sync : SameSync f g) :
    Built attempt f (.ok (some backend), g)
  | waiting (client : Client) (server : String) {g : Follower} (sync : SameSync f g) :
    Built attempt f (.ok none, { g with starts := g.starts ++ [⟨attempt, client, server⟩] })
  | stopped {stop : Stop} {g : Follower} (sync : SameSync f g) (late : stop.Late) :
    Built attempt f (.error stop, g)

theorem Built.after {attempt : Nat} {f g : Follower}
    {result : Except Stop (Option Backend) × Follower} (first : SameSync f g)
    (built : Built attempt g result) : Built attempt f result := by
  cases built with
  | ready backend sync => exact .ready backend (first.trans sync)
  | waiting client server sync => exact .waiting client server (first.trans sync)
  | stopped sync late => exact .stopped (first.trans sync) late

theorem built_some {attempt : Nat} {work : Act Backend} (builds : BuildsBy Dialled work)
    (f : Follower) : Built attempt f ((some <$> work).run f) := by
  have sync := builds.sameSync f
  rw [run_map]
  split
  · rename_i backend g came
    rw [came] at sync
    exact .ready backend sync
  · rename_i stop g came
    rw [came] at sync
    exact .stopped sync (builds.late f stop g came)

theorem built_connect (attempt : Nat) (address username password : String) (certificate : Bytes)
    (f : Follower) :
    Built attempt f ((connect attempt address username password certificate).run f) := by
  unfold connect
  rw [run_bind, run_get]
  dsimp only
  split
  · exact .stopped (SameSync.refl f) trivial
  · rename_i endpoint _
    rw [run_bind, run_update]
    dsimp only
    refine Built.after (SameSync.log f (.connecting endpoint.render)) ?_
    rw [run_bind]
    have making := builds_makeClient ⟨f.config.network, endpoint.render, username, password,
      certificate, certificate.isEmpty⟩
    have made := making.sameSync (f.log (.connecting endpoint.render))
    split
    · rename_i value g came
      rw [came] at made
      refine Built.after made ?_
      cases value with
      | error e => exact .stopped (SameSync.refl g) (SyncError.late_ofWallet e)
      | ok client =>
        dsimp only
        rw [run_bind, run_update]
        dsimp only
        refine Built.after (SameSync.saw g (.connect client g.session.state) trivial) ?_
        rw [run_bind, run_get]
        dsimp only
        split
        · exact built_some (builds_connected attempt client _ _) _
        · exact .waiting client endpoint.render (SameSync.refl _)
    · rename_i stop g came
      rw [came] at made
      exact .stopped made (making.late _ stop g came)

theorem built_build (attempt : Nat) (config : BackendConfig) (f : Follower) :
    Built attempt f ((build attempt config).run f) := by
  cases config with
  | spv peers => exact built_some (builds_buildSpv peers).dialled f
  | rpc address username password certificate =>
    unfold build
    rw [run_bind, run_get]
    dsimp only
    split
    · rename_i client _
      rw [run_bind, run_update]
      dsimp only
      refine Built.after (SameSync.log f .clientReused) ?_
      exact built_some (builds_buildRpc client).dialled _
    · exact built_connect attempt address username password _ f

theorem yields_buildSpv (peers : List String) :
    Yields (fun backend => backend.kind = .spv) (buildSpv peers) := by
  refine yields_bind fun _ => yields_bind fun _ => yields_bind fun _ => ?_
  exact yields_bind fun _ => yields_pure rfl

theorem yields_buildRpc (client : Client) :
    Yields (fun backend => backend.kind = .rpc) (buildRpc client) :=
  yields_bind fun _ => yields_bind fun _ => yields_pure rfl

theorem yields_connected (attempt : Nat) (client : Client) (address : String)
    (reply : Reply ConnectError) :
    Yields (fun backend => backend.kind = .rpc) (connected attempt client address reply) := by
  cases reply with
  | panic text => exact yields_throw _
  | error e => exact yields_bind fun _ => yields_bind fun f => yields_fail _
  | ok =>
    refine yields_bind fun _ => yields_bind fun f => yields_bind fun _ => ?_
    exact yields_buildRpc _

def Fits (config : BackendConfig) : Option Backend → Prop
  | some backend => backend.kind = config.kind
  | none => config.kind = .rpc

theorem yields_build (attempt : Nat) (config : BackendConfig) :
    Yields (Fits config) (build attempt config) := by
  cases config with
  | spv peers => exact yields_map (yields_buildSpv peers) fun _ => id
  | rpc address username password certificate =>
    refine yields_bind fun f => ?_
    split
    · exact yields_bind fun _ => yields_map (yields_buildRpc _) fun _ => id
    · unfold connect
      refine yields_bind fun f => ?_
      dsimp only
      split
      · exact yields_fail _
      · refine yields_bind fun _ => yields_bind fun made => ?_
        cases made with
        | error e => exact yields_fail _
        | ok client =>
          refine yields_bind fun _ => yields_bind fun f => ?_
          split
          · exact yields_map (yields_connected _ _ _ _) fun _ => id
          · exact yields_bind fun _ => yields_pure rfl

end Follower

end ChainFollower

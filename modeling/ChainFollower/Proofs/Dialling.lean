import ChainFollower.Proofs.Elsewhere

/-! How a start of a server's backend comes by its client: one that is kept is used as it is, and
without one the start connects once. What is recorded of that is compared over the whole start. -/
namespace ChainFollower

def dials (history : List Happening) : List Sight :=
  history.filterMap (fun happening =>
    match happening with
    | .saw (.rpcClient params) => some (.rpcClient params)
    | .saw (.connect client state) => some (.connect client state)
    | _ => none)

theorem dials_append (new old : List Happening) : dials (new ++ old) = dials new ++ dials old :=
  List.filterMap_append

/-- What callers see of a connection that failed, after a cancellation or without one. -/
inductive ConnectError.Reported : Bool → ConnectError → SyncError → Prop where
  | auth (cancelled : Bool) : Reported cancelled .invalidAuth .invalidAuth
  | canceled (cancelled : Bool) : Reported cancelled .canceled .contextCanceled
  | late (text : String) : Reported true (.other text) .contextCanceled
  | unavailable (text : String) : Reported false (.other text) (.unavailable text)

def Fault.stop : Fault → Stop
  | error e => .failed (.ofWallet e)
  | panic text => .panicked text

namespace Follower

open Act

/-- No client was made or connected since `f`, and the one that is kept is the same. -/
structure Undialled (f g : Follower) : Prop where
  cache : g.cache = f.cache
  dials : dials g.history = dials f.history

namespace Undialled

variable {f g h : Follower}

theorem of_same (cache : g.cache = f.cache) (history : g.history = f.history) : Undialled f g :=
  ⟨cache, congrArg ChainFollower.dials history⟩

theorem refl (f : Follower) : Undialled f f := of_same rfl rfl

theorem trans (first : Undialled f g) (second : Undialled g h) : Undialled f h :=
  ⟨second.cache.trans first.cache, second.dials.trans first.dials⟩

instance : IsTrans Follower Undialled := ⟨fun _ _ _ => trans⟩

theorem note (f : Follower) {happening : Happening}
    (other : ChainFollower.dials [happening] = []) : Undialled f (f.note happening) := by
  have grown : (f.note happening).history = [happening] ++ f.history := rfl
  exact ⟨rfl, by rw [grown, dials_append, other, List.nil_append]⟩

theorem log (f : Follower) (record : LogRecord) : Undialled f (f.log record) := note f rfl

theorem of_told {sent : Event → Prop} (told : Told sent f g) : Undialled f g := by
  obtain ⟨ls, ts, hs, rfl, _, _, telling⟩ := told
  have none : ChainFollower.dials hs = [] := by
    refine List.filterMap_eq_nil_iff.mpr ?_
    intro happening member
    have kind := telling happening member
    cases happening with
    | saw sight => exact kind.elim
    | _ => rfl
  exact ⟨rfl, by rw [dials_append, none, List.nil_append]⟩

theorem of_sameTasksAndClient (spared : SameTasksAndClient f g) : Undialled f g := by
  induction spared with
  | @same f g rest =>
    simp only [Prod.mk.injEq] at rest
    exact of_same rest.2.2.2.2.2.1 rest.2.2.2.2.2.2
  | log f record => exact log f record
  | @saw f sight plain =>
    refine note f ?_
    cases sight with
    | rpcClient params => exact plain.elim
    | connect client state => exact plain.elim
    | _ => rfl
  | broadcast f goesOn => exact of_told (Told.broadcast _ f)
  | trans _ _ first second => exact first.trans second

theorem of_harmless (harmless : Harmless False f g) : Undialled f g := by
  induction harmless with
  | spared spared => exact of_sameTasksAndClient spared
  | @same f g rest =>
    simp only [Prod.mk.injEq] at rest
    exact of_same rest.2.2.2.2.2.1 rest.2.2.2.2.2.2
  | @note f happening elsewhere =>
    refine note f ?_
    cases happening with
    | saw sight =>
      cases sight with
      | rpcClient params => exact elsewhere.elim
      | connect client state => exact elsewhere.elim
      | _ => rfl
    | _ => rfl
  | broadcast f event => exact of_told (Told.broadcast event f)
  | dialled may => exact may.elim
  | trans _ _ first second => exact first.trans second

theorem of_rescans (rescans : Rescans f g) : Undialled f g := by
  induction rescans with
  | @same f g rest =>
    simp only [Prod.mk.injEq] at rest
    exact of_same rest.2.2.1 rest.2.2.2.2.2
  | log f record => exact log f record
  | called f link => exact note f rfl
  | tells f scan => exact of_told (Told.broadcast _ f)
  | ended f number outcome => exact note f rfl
  | trans _ _ first second => exact first.trans second

theorem entered (f : Follower) (config : BackendConfig) : Undialled f (f.entered config) :=
  ⟨rfl, rfl⟩

theorem cancelQuietly (f : Follower) : Undialled f f.cancelQuietly := by
  unfold Follower.cancelQuietly
  split <;> exact of_same rfl rfl

theorem cancelRescan (f : Follower) : Undialled f f.cancelRescan := by
  have silent : Told (fun _ => False) f f.cancelRescan := Told.cancelRescan f
  exact of_told silent

theorem abortStart (f : Follower) : Undialled f f.abortStart :=
  (cancelQuietly f).trans ⟨rfl, rfl⟩

theorem aborted (f : Follower) (stop : Stop) : Undialled f (f.warn stop).abortStart :=
  (of_sameTasksAndClient (SameTasksAndClient.warn f stop)).trans (abortStart _)

theorem launch (attempt : Nat) (backend : Backend) :
    Keeps Undialled (launch attempt backend) := by
  intro f
  have harmless : Keeps (Harmless False) (Follower.launch attempt backend) := .launch attempt backend
  exact of_harmless (harmless f)

end Undialled

def launchOrAbort (attempt : Nat) : Except Stop Backend × Follower → Except Stop Nat × Follower
  | (.ok backend, f) => (launch attempt backend).run f
  | (.error stop, f) => (.error stop, (f.warn stop).abortStart)

theorem run_startSync_ready {f g : Follower} (free : f.startBarrier? = none)
    {config : BackendConfig} {work : Act Backend}
    (building : (build (f.counts.startAttempts + 1) config).run (f.entered config) =
      (some <$> work).run g) :
    (startSync config).run f =
      let came := launchOrAbort (f.counts.startAttempts + 1) (work.run g)
      (came.1.map Started.launched, came.2) := by
  rw [run_startSync, free]
  dsimp only
  rw [building, run_map]
  rcases work.run g with ⟨stop | backend, h⟩
  · rfl
  · have launching : launchOrAbort (f.counts.startAttempts + 1) (.ok backend, h) =
        (launch (f.counts.startAttempts + 1) backend).run h := rfl
    rw [launching]
    dsimp only
    rw [run_map]
    rcases (launch (f.counts.startAttempts + 1) backend).run h with ⟨stop | number, e⟩ <;> rfl

theorem run_resumeStart_ready (start : PendingStart) (reply : Reply ConnectError) (f : Follower) :
    (resumeStart start reply).run f =
      launchOrAbort start.attempt
        ((connected start.attempt start.client start.address reply).run f) := by
  rw [run_resumeStart]
  rcases (connected start.attempt start.client start.address reply).run f
    with ⟨stop | backend, g⟩ <;> rfl

/-- Since `f` a syncer was made for the client, and no run drives another one. -/
def Uses (client : Client) (f g : Follower) : Prop :=
  ∃ number new, g.history = new ++ f.history ∧
    Happening.saw (.rpcSyncer ⟨.rpc, number⟩ client) ∈ new ∧
    ∀ run ∈ g.runs, run.backend = .rpc number client

theorem Uses.since {client : Client} {e f g : Follower} (uses : Uses client f g)
    (before : ∃ new, f.history = new ++ e.history) : Uses client e g := by
  obtain ⟨number, new, grown, inside, driven⟩ := uses
  obtain ⟨earlier, old⟩ := before
  refine ⟨number, new ++ earlier, ?_, List.mem_append_left _ inside, driven⟩
  rw [grown, old, List.append_assoc]

theorem makeRpcSyncer_cases (client : Client) (f : Follower) :
    ∃ number new g, g.history = new ++ f.history ∧ g.runs = f.runs ∧
      Happening.saw (.rpcSyncer ⟨.rpc, number⟩ client) ∈ new ∧
      ((makeRpcSyncer client).run f = (.ok number, g) ∨
        ∃ text, (makeRpcSyncer client).run f = (.error (.panicked text), g)) := by
  let number := f.counts.rpcSyncers + 1
  let called := Follower.saw { f with counts := { f.counts with rpcSyncers := number } }
    (.rpcSyncer ⟨.rpc, number⟩ client)
  let made := { called with syncers := (⟨.rpc, number⟩, called.scripts.rpcRun) :: called.syncers }
  have calls : (makeRpcSyncer client).run f = (do
      Act.panicAt .rpcSyncer
      Act.update (fun f => { f with
        syncers := (⟨.rpc, number⟩, f.scripts.rpcRun) :: f.syncers })
      pure number : Act Nat).run called := rfl
  rw [calls, run_bind]
  rcases panicAt_cases .rpcSyncer called with ⟨_, came⟩ | ⟨_, text, came⟩
  · rw [came]
    exact ⟨number, [_], made, rfl, rfl, List.mem_singleton_self _, Or.inl rfl⟩
  · rw [came]
    exact ⟨number, [_], called, rfl, rfl, List.mem_singleton_self _, Or.inr ⟨text, rfl⟩⟩

theorem buildRpc_cases (client : Client) (f : Follower) :
    ∃ number new g, g.history = new ++ f.history ∧ g.runs = f.runs ∧
      Happening.saw (.rpcSyncer ⟨.rpc, number⟩ client) ∈ new ∧
      ((buildRpc client).run f = (.ok (.rpc number client), g) ∨
        ∃ text, (buildRpc client).run f = (.error (.panicked text), g)) := by
  obtain ⟨number, new, g, grown, runs, inside, came | ⟨text, came⟩⟩ := makeRpcSyncer_cases client f
  · let told := g.saw (.notifications ⟨.rpc, number⟩)
    have telling : (buildRpc client).run f = (do
        Act.panicAt .notifications
        pure (.rpc number client) : Act Backend).run told := by
      unfold buildRpc
      rw [run_bind, came]
      rfl
    have longer : told.history = (.saw (.notifications ⟨.rpc, number⟩) :: new) ++ f.history :=
      congrArg (List.cons _) grown
    refine ⟨number, _, told, longer, runs, List.mem_cons_of_mem _ inside, ?_⟩
    rw [telling, run_bind]
    rcases panicAt_cases .notifications told with ⟨_, came⟩ | ⟨_, text, came⟩
    · rw [came]
      exact Or.inl rfl
    · rw [came]
      exact Or.inr ⟨text, rfl⟩
  · refine ⟨number, new, g, grown, runs, inside, Or.inr ⟨text, ?_⟩⟩
    unfold buildRpc
    rw [run_bind, came]

theorem runs_launched {attempt : Nat} {backend : Backend} {f g : Follower}
    {result : Except Stop Nat} (vacant : f.runs = [])
    (launched : Launched attempt backend f (result, g)) :
    ∀ run ∈ g.runs, run.backend = backend := by
  intro run member
  cases launched with
  | @done h sync =>
    have before : h.runs = [] := sync.runs.trans vacant
    have alone : run ∈ h.runs ++ [⟨h.counts.syncs + 1, attempt, backend, false⟩] := member
    rw [before, List.nil_append] at alone
    rw [List.mem_singleton.mp alone]
  | panicked breaks stays =>
    have still : g.runs = [] := by simpa [vacant] using stays.runs
    simp [still] at member

/-- A backend on the client is built and launched; only a panic can keep it from that. -/
theorem uses_launchOrAbort (attempt : Nat) (client : Client) {f : Follower} (vacant : f.runs = []) :
    let came := launchOrAbort attempt ((buildRpc client).run f)
    Undialled f came.2 ∧ Uses client f came.2 ∧
      ((∃ number, came.1 = .ok number) ∨ ∃ text, came.1 = .error (.panicked text)) := by
  have built := Undialled.of_sameTasksAndClient ((builds_buildRpc client).sameTasksAndClient.keeps f)
  obtain ⟨number, new, g, grown, runs, inside, came | ⟨text, came⟩⟩ := buildRpc_cases client f
  · rw [came] at built ⊢
    have launched := launched_launch attempt (.rpc number client) g
    have undialled := Undialled.launch attempt (.rpc number client) g
    have launching : launchOrAbort attempt (.ok (.rpc number client), g) =
        (launch attempt (.rpc number client)).run g := rfl
    rw [launching]
    dsimp only
    revert launched undialled
    generalize (launch attempt (.rpc number client)).run g = result
    intro launched undialled
    obtain ⟨later, longer, _⟩ := startKeeps_silent.launched launched
    have drives := runs_launched (runs.trans vacant) launched
    have uses : Uses client f result.2 :=
      ⟨number, later ++ new, by rw [longer, grown, List.append_assoc],
        List.mem_append_right _ inside, drives⟩
    refine ⟨built.trans undialled, uses, ?_⟩
    cases launched with
    | done sync => exact Or.inl ⟨_, rfl⟩
    | panicked => exact Or.inr ⟨_, rfl⟩
  · rw [came] at built ⊢
    have history : g.abortStart.history = (.stateSet .idle :: new) ++ f.history := by
      rw [abortStart_history, grown]
      rfl
    have still : g.abortStart.runs = [] :=
      (congrArg Standing.runs (abortStart_standing g)).trans (runs.trans vacant)
    refine ⟨built.trans (.abortStart g), ?_, Or.inr ⟨text, rfl⟩⟩
    exact ⟨number, _, history, List.mem_cons_of_mem _ inside, fun run member => by
      simp [launchOrAbort, warn, still] at member⟩

/-- What a connection with a reply comes to, in a start that goes on from `f`. -/
inductive Replied (f : Follower) (cancelled : Bool) (client : Client) :
    Reply ConnectError → Except Stop Nat × Follower → Prop where
  | refused {e : ConnectError} {told : SyncError} {g : Follower}
      (reported : ConnectError.Reported cancelled e told) (empty : g.cache = none) :
    Replied f cancelled client (.error e) (.error (.failed told), g)
  | broken (text : String) {g : Follower} (empty : g.cache = none) :
    Replied f cancelled client (.panic text) (.error (.panicked text), g)
  | accepted {came : Except Stop Nat × Follower} (kept : came.2.cache = some client)
      (uses : Uses client f came.2)
      (goesOn : (∃ number, came.1 = .ok number) ∨ ∃ text, came.1 = .error (.panicked text)) :
    Replied f cancelled client .ok came

theorem Replied.since {cancelled : Bool} {client : Client} {reply : Reply ConnectError}
    {came : Except Stop Nat × Follower} {e f : Follower} (replied : Replied f cancelled client reply came)
    (before : ∃ new, f.history = new ++ e.history) : Replied e cancelled client reply came := by
  cases replied with
  | refused reported empty => exact .refused reported empty
  | broken text empty => exact .broken text empty
  | accepted kept uses goesOn => exact .accepted kept (uses.since before) goesOn

theorem connectFailure_reported (cancelled : Bool) (e : ConnectError) :
    ConnectError.Reported cancelled e (connectFailure cancelled e) := by
  cases e with
  | invalidAuth => exact .auth cancelled
  | canceled => exact .canceled cancelled
  | other text =>
    cases cancelled with
    | true => exact .late text
    | false => exact .unavailable text

/-- A start with a reply dials nothing more, and keeps its client exactly if it was accepted. -/
theorem replied_connected (attempt : Nat) (client : Client) (server : String)
    (reply : Reply ConnectError) {f : Follower} (empty : f.cache = none) (vacant : f.runs = []) :
    let came := launchOrAbort attempt ((connected attempt client server reply).run f)
    dials came.2.history = dials f.history ∧
      Replied f (f.isCancelled (.start attempt)) client reply came := by
  cases reply with
  | ok =>
    let kept := { f.log (.connected server) with cache := some client }
    have building : (connected attempt client server .ok).run f = (buildRpc client).run kept := by
      rw [run_connected_ok]
      unfold keepClient
      rw [show (f.log (.connected server)).cache = none from empty]
      rfl
    have still : kept.runs = [] := vacant
    obtain ⟨undialled, uses, goesOn⟩ := uses_launchOrAbort attempt client still
    have logged : Undialled f (f.log (.connected server)) := .log f _
    rw [building]
    refine ⟨undialled.dials.trans logged.dials, .accepted undialled.cache ?_ goesOn⟩
    exact uses.since ⟨[_], rfl⟩
  | error e =>
    have logged := Undialled.log f (.connectFailed server e)
    have aborted := Undialled.aborted (f.log (.connectFailed server e))
      (.failed (connectFailure (f.isCancelled (.start attempt)) e))
    have undialled := logged.trans aborted
    exact ⟨undialled.dials, .refused (connectFailure_reported _ e) (undialled.cache.trans empty)⟩
  | panic text =>
    have undialled := Undialled.abortStart f
    exact ⟨undialled.dials, .broken text (undialled.cache.trans empty)⟩

def withClient (f : Follower) : Follower :=
  { f with
    counts := { f.counts with clients := f.counts.clients + 1 }
    clients := (⟨f.counts.clients + 1⟩, f.scripts.rpcConnect) :: f.clients }

theorem run_makeClient (params : ServerParams) (f : Follower) :
    (makeClient params).run f =
      match f.fault? .rpcClient with
      | some (.panic text) => (.error (.panicked text), f.saw (.rpcClient params))
      | some (.error e) => (.ok (.error e), f.saw (.rpcClient params))
      | none => (.ok (.ok ⟨f.counts.clients + 1⟩), (f.saw (.rpcClient params)).withClient) := by
  have same : (f.saw (.rpcClient params)).fault? .rpcClient = f.fault? .rpcClient := rfl
  unfold makeClient
  rw [run_bind, run_update]
  dsimp only
  rw [run_bind, run_fault, same]
  rcases f.fault? .rpcClient with _ | e | text <;> rfl

theorem connectReply_withClient (f : Follower) (attempt : Nat) :
    f.withClient.connectReply? ⟨f.counts.clients + 1⟩ attempt =
      f.scripts.rpcConnect.reply? (f.isCancelled (.start attempt)) := by
  have found : f.withClient.clients.lookup ⟨f.counts.clients + 1⟩ = some f.scripts.rpcConnect :=
    List.lookup_cons_self
  unfold connectReply?
  rw [found]
  rfl

theorem run_connect {f : Follower} {address : String} {endpoint : Endpoint}
    (valid : Endpoint.ofAddress f.config.network.rpcPort address = .ok endpoint) (attempt : Nat)
    (username password : String) (certificate : Bytes) :
    let params : ServerParams :=
      ⟨f.config.network, endpoint.render, username, password, certificate, certificate.isEmpty⟩
    let asked := (f.log (.connecting endpoint.render)).saw (.rpcClient params)
    (connect attempt address username password certificate).run f =
      match f.fault? .rpcClient with
      | some fault => (.error fault.stop, asked)
      | none =>
        let called := asked.withClient.saw (.connect ⟨f.counts.clients + 1⟩ f.session.state)
        match f.scripts.rpcConnect.reply? (f.isCancelled (.start attempt)) with
        | some reply =>
          (some <$> connected attempt ⟨f.counts.clients + 1⟩ endpoint.render reply).run called
        | none =>
          (.ok none, { called with
            starts := f.starts ++ [⟨attempt, ⟨f.counts.clients + 1⟩, endpoint.render⟩] }) := by
  intro params asked
  have same : (f.log (.connecting endpoint.render)).fault? .rpcClient = f.fault? .rpcClient := rfl
  unfold connect
  rw [run_bind, run_get]
  dsimp only
  rw [valid]
  dsimp only
  rw [run_bind, run_update]
  dsimp only
  rw [run_bind, run_makeClient, same]
  rcases f.fault? .rpcClient with _ | e | text
  · dsimp only
    rw [run_bind, run_update]
    dsimp only
    rw [run_bind, run_get]
    dsimp only
    let called := asked.withClient.saw (.connect ⟨f.counts.clients + 1⟩ f.session.state)
    have asks : called.connectReply? ⟨f.counts.clients + 1⟩ attempt =
        f.scripts.rpcConnect.reply? (f.isCancelled (.start attempt)) :=
      connectReply_withClient asked attempt
    change (match called.connectReply? ⟨f.counts.clients + 1⟩ attempt with
      | some reply => some <$> connected attempt ⟨f.counts.clients + 1⟩ endpoint.render reply
      | none => do
        Act.update (fun f => { f with
          starts := f.starts ++ [⟨attempt, ⟨called.counts.clients⟩, endpoint.render⟩] })
        pure none : Act (Option Backend)).run called = _
    rw [asks]
    split <;> rfl
  · rfl
  · rfl

/-- What a call to start a server's backend comes to that is not barred. -/
structure ServerStart (f : Follower) (address username password : String) (certificate : Bytes)
    (came : Except Stop Started × Follower) : Prop where
  /-- A client that is kept is used, whatever the address. -/
  reused : ∀ client, f.cache = some client → Undialled f came.2 ∧ Uses client f came.2 ∧
    ((∃ number, came.1 = .ok (.launched number)) ∨ ∃ text, came.1 = .error (.panicked text))
  invalid : ∀ e, f.cache = none →
    Endpoint.ofAddress f.config.network.rpcPort address = .error e →
      came.1 = .error (.failed (.invalidAddress e.message)) ∧ Undialled f came.2
  unmade : ∀ endpoint fault, f.cache = none →
    Endpoint.ofAddress f.config.network.rpcPort address = .ok endpoint →
      f.fault? .rpcClient = some fault →
        came.1 = .error fault.stop ∧ came.2.cache = none ∧
          dials came.2.history = .rpcClient ⟨f.config.network, endpoint.render, username, password,
            certificate, certificate.isEmpty⟩ :: dials f.history
  connects : ∀ endpoint, f.cache = none →
    Endpoint.ofAddress f.config.network.rpcPort address = .ok endpoint →
      f.fault? .rpcClient = none →
        dials came.2.history = .connect ⟨f.counts.clients + 1⟩ .starting ::
          .rpcClient ⟨f.config.network, endpoint.render, username, password, certificate,
            certificate.isEmpty⟩ :: dials f.history ∧
        match f.scripts.rpcConnect.reply? (f.isCancelled (.start (f.counts.startAttempts + 1))) with
        | some reply => ∃ result,
          Replied f (f.isCancelled (.start (f.counts.startAttempts + 1))) ⟨f.counts.clients + 1⟩
            reply (result, came.2) ∧ came.1 = result.map Started.launched
        | none => came.1 = .ok .pending ∧ came.2.cache = none ∧
          came.2.starts = f.starts ++
            [⟨f.counts.startAttempts + 1, ⟨f.counts.clients + 1⟩, endpoint.render⟩]

section
variable {f : Follower} (address username password : String) (certificate : Option Bytes)

theorem build_kept {client : Client} (kept : f.cache = some client) (attempt : Nat) :
    (build attempt (.rpc address username password certificate)).run f =
      (some <$> buildRpc client).run (f.log .clientReused) := by
  unfold build
  rw [run_bind, run_get]
  dsimp only
  rw [kept]
  rfl

theorem build_empty (empty : f.cache = none) (attempt : Nat) :
    (build attempt (.rpc address username password certificate)).run f =
      (connect attempt address username password (certificate.getD [])).run f := by
  unfold build
  rw [run_bind, run_get]
  dsimp only
  rw [empty]

theorem connect_invalid {e : AddressError}
    (invalid : Endpoint.ofAddress f.config.network.rpcPort address = .error e) (attempt : Nat)
    (certificate : Bytes) :
    (connect attempt address username password certificate).run f =
      (.error (.failed (.invalidAddress e.message)), f) := by
  unfold connect
  rw [run_bind, run_get]
  dsimp only
  rw [invalid]
  rfl

/-- The follower in which a start without a client begins to look for one. -/
theorem run_startSync_stopped (free : f.startBarrier? = none) (empty : f.cache = none) {stop : Stop}
    {g : Follower}
    (stops : (connect (f.counts.startAttempts + 1) address username password
      (certificate.getD [])).run (f.entered (.rpc address username password certificate)) =
        (.error stop, g)) :
    (startSync (.rpc address username password certificate)).run f =
      (.error stop, (g.warn stop).abortStart) := by
  have same : (f.entered (.rpc address username password certificate)).cache = none := empty
  rw [run_startSync, free]
  dsimp only
  rw [build_empty address username password certificate same, stops]

theorem connects_startSync (free : f.startBarrier? = none) (vacant : f.runs = [])
    {endpoint : Endpoint} (empty : f.cache = none)
    (valid : Endpoint.ofAddress f.config.network.rpcPort address = .ok endpoint)
    (makes : f.fault? .rpcClient = none) :
    let came := (startSync (.rpc address username password certificate)).run f
    dials came.2.history = .connect ⟨f.counts.clients + 1⟩ .starting ::
      .rpcClient ⟨f.config.network, endpoint.render, username, password, certificate.getD [],
        (certificate.getD []).isEmpty⟩ :: dials f.history ∧
    match f.scripts.rpcConnect.reply? (f.isCancelled (.start (f.counts.startAttempts + 1))) with
    | some reply => ∃ result,
      Replied f (f.isCancelled (.start (f.counts.startAttempts + 1))) ⟨f.counts.clients + 1⟩
        reply (result, came.2) ∧ came.1 = result.map Started.launched
    | none => came.1 = .ok .pending ∧ came.2.cache = none ∧
      came.2.starts = f.starts ++
        [⟨f.counts.startAttempts + 1, ⟨f.counts.clients + 1⟩, endpoint.render⟩] := by
  let config : BackendConfig := .rpc address username password certificate
  let attempt := f.counts.startAttempts + 1
  have keeps : (f.entered config).cache = none := empty
  have building := build_empty address username password certificate keeps attempt
  have connecting := run_connect (f := f.entered config) valid attempt username password
    (certificate.getD [])
  have gate : (f.entered config).scripts.rpcConnect.reply?
      ((f.entered config).isCancelled (.start attempt)) =
      f.scripts.rpcConnect.reply? (f.isCancelled (.start attempt)) := rfl
  rw [show (f.entered config).fault? .rpcClient = none from makes] at connecting
  dsimp only at connecting
  rw [gate] at connecting
  cases replies : f.scripts.rpcConnect.reply? (f.isCancelled (.start attempt)) with
  | none =>
    rw [replies] at connecting
    rw [run_startSync, free]
    dsimp only
    rw [building, connecting]
    exact ⟨rfl, rfl, empty, rfl⟩
  | some reply =>
    rw [replies] at connecting
    let asked := ((f.entered config).log (.connecting endpoint.render)).saw (.rpcClient
      ⟨f.config.network, endpoint.render, username, password, certificate.getD [],
        (certificate.getD []).isEmpty⟩)
    let called := asked.withClient.saw (.connect ⟨f.counts.clients + 1⟩ .starting)
    have uncached : called.cache = none := empty
    have still : called.runs = [] := vacant
    have dials : dials called.history = .connect ⟨f.counts.clients + 1⟩ .starting ::
        .rpcClient ⟨f.config.network, endpoint.render, username, password, certificate.getD [],
          (certificate.getD []).isEmpty⟩ :: dials f.history := rfl
    have before : ∃ new, called.history = new ++ f.history := ⟨[_, _, _, _, _], rfl⟩
    rw [run_startSync_ready free (building.trans connecting)]
    obtain ⟨dialled, replied⟩ := replied_connected attempt ⟨f.counts.clients + 1⟩ endpoint.render
      reply uncached still
    exact ⟨dialled.trans dials, _, replied.since before, rfl⟩

theorem serverStart_startSync (free : f.startBarrier? = none) (vacant : f.runs = []) :
    ServerStart f address username password (certificate.getD [])
      ((startSync (.rpc address username password certificate)).run f) where
  reused client kept := by
    let entered := f.entered (.rpc address username password certificate)
    have keeps : entered.cache = some client := kept
    have building := build_kept address username password certificate keeps
      (f.counts.startAttempts + 1)
    have still : (entered.log .clientReused).runs = [] := vacant
    obtain ⟨undialled, uses, goesOn⟩ :=
      uses_launchOrAbort (f.counts.startAttempts + 1) client still
    rw [run_startSync_ready free building]
    have before : f.Undialled (entered.log .clientReused) := (Undialled.entered f _).trans (.log _ _)
    refine ⟨before.trans undialled, uses.since ⟨[_, _, _], rfl⟩, ?_⟩
    rcases goesOn with ⟨number, came⟩ | ⟨text, came⟩
    · exact Or.inl ⟨number, congrArg (Except.map Started.launched) came⟩
    · exact Or.inr ⟨text, congrArg (Except.map Started.launched) came⟩
  invalid e empty invalid := by
    let entered := f.entered (.rpc address username password certificate)
    have rejects := connect_invalid address username password (f := entered) invalid
      (f.counts.startAttempts + 1) (certificate.getD [])
    rw [run_startSync_stopped address username password certificate free empty rejects]
    exact ⟨rfl, (Undialled.entered f _).trans (.aborted _ _)⟩
  unmade endpoint fault empty valid faulty := by
    let entered := f.entered (.rpc address username password certificate)
    have connecting := run_connect (f := entered) valid (f.counts.startAttempts + 1) username
      password (certificate.getD [])
    rw [show entered.fault? .rpcClient = some fault from faulty] at connecting
    rw [run_startSync_stopped address username password certificate free empty connecting]
    have aborted := Undialled.aborted ((entered.log (.connecting endpoint.render)).saw
      (.rpcClient ⟨f.config.network, endpoint.render, username, password, certificate.getD [],
        (certificate.getD []).isEmpty⟩)) fault.stop
    exact ⟨rfl, aborted.cache.trans empty, aborted.dials⟩
  connects endpoint empty valid makes :=
    connects_startSync address username password certificate free vacant empty valid makes

end

end Follower

end ChainFollower

import ChainFollower.Proofs.Reactions
import ChainFollower.Proofs.Trail

/-! The session's state over a whole run: which states are assigned one after the other, what a
notification of a backend has to do with that, and when the state says that the wallet has caught
up. -/
namespace ChainFollower

def assigned (history : List Happening) : List SyncState :=
  history.filterMap (fun happening =>
    match happening with
    | .stateSet state => some state
    | _ => none)

theorem assigned_append (new old : List Happening) :
    assigned (new ++ old) = assigned new ++ assigned old :=
  List.filterMap_append

/-- These states, the last one first, lead to the state by documented transitions only. -/
inductive Documented : List SyncState → SyncState → Prop where
  | fresh : Documented [] .idle
  | begins {states : List SyncState} (before : Documented states .idle) :
    Documented (.starting :: states) .starting
  | aborts {states : List SyncState} (before : Documented states .starting) :
    Documented (.idle :: states) .idle
  | launches {states : List SyncState} (before : Documented states .starting) :
    Documented (.running :: states) .running
  | catchesUp {states : List SyncState} (before : Documented states .running) :
    Documented (.synced :: states) .synced
  | fallsBehind {states : List SyncState} (before : Documented states .synced) :
    Documented (.running :: states) .running
  | ends {states : List SyncState} {state outcome : SyncState} (before : Documented states state)
      (attached : state.Attached)
      (ended : outcome = .idle ∨ outcome = .canceled ∨ outcome = .errored) :
    Documented (.idle :: outcome :: states) .idle

theorem SyncOutcome.state_cases (outcome : SyncOutcome) :
    outcome.state = .idle ∨ outcome.state = .canceled ∨ outcome.state = .errored := by
  cases outcome <;> simp [state]

def SyncState.ofSynced : Bool → SyncState
  | true => .synced
  | false => .running

theorem SyncState.attached_ofSynced (caughtUp : Bool) : (ofSynced caughtUp).Attached := by
  cases caughtUp
  · exact Or.inl rfl
  · exact Or.inr rfl

def Notification.synced? : Notification → Option Bool
  | synced caughtUp => some caughtUp
  | _ => none

namespace Follower

open Act

/-- The states that are assigned while a backend says this, one after the other; the last one
first. -/
def flips (state : SyncState) : List Bool → List SyncState
  | [] => []
  | caughtUp :: rest =>
    match syncedState? state caughtUp with
    | some next => flips next rest ++ [next]
    | none => flips state rest

theorem headD_concat (states : List SyncState) (first state : SyncState) :
    (states ++ [first]).headD state = states.headD first := by
  cases states <;> rfl

theorem flips_append (state : SyncState) (values more : List Bool) :
    flips state (values ++ more) =
      flips ((flips state values).headD state) more ++ flips state values := by
  induction values generalizing state with
  | nil => simp [flips]
  | cons caughtUp rest ih =>
    rw [List.cons_append, flips, flips]
    cases syncedState? state caughtUp with
    | none => exact ih state
    | some next =>
      simp only [ih next, headD_concat, List.append_assoc]

theorem documented_flips {states : List SyncState} {state : SyncState}
    (before : Documented states state) (values : List Bool) :
    Documented (flips state values ++ states) ((flips state values).headD state) := by
  induction values generalizing state states with
  | nil => exact before
  | cons caughtUp rest ih =>
    have taken (next : SyncState) (after : Documented (next :: states) next) :
        Documented ((flips next rest ++ [next]) ++ states)
          ((flips next rest ++ [next]).headD state) := by
      rw [headD_concat, List.append_assoc]
      exact ih after
    cases state with
    | running =>
      cases caughtUp with
      | false => exact ih before
      | true => exact taken .synced (.catchesUp before)
    | synced =>
      cases caughtUp with
      | false => exact taken .running (.fallsBehind before)
      | true => exact ih before
    | _ => exact ih before

theorem flips_unattached {state : SyncState} (other : ¬ state.Attached) (values : List Bool) :
    flips state values = [] := by
  induction values with
  | nil => rfl
  | cons caughtUp rest ih =>
    have still : syncedState? state caughtUp = none := by
      unfold syncedState?
      split
      · exact absurd (Or.inl rfl) other
      · exact absurd (Or.inr rfl) other
      · rfl
    rw [flips, still]
    exact ih

def openings (f : Follower) (backend : Backend) : List Bool :=
  (((f.syncers.lookup backend.syncer).map RunScript.notices).getD []).filterMap
    Notification.synced?

def sayings (f : Follower) : Move → List Bool
  | .notice _ notification => notification.synced?.toList
  | .step (.notify notification) =>
    if f.syncers.isEmpty then [] else notification.synced?.toList
  | .call number =>
    match f.runs.find? (fun run => run.number == number) with
    | some run => f.openings run.backend
    | none => []
  | _ => []

/-- The states that the move assigns, the last one first. -/
inductive Shifts (f : Follower) : Move → List SyncState → Prop where
  | told (move : Move) : Shifts f move (flips f.session.state (f.sayings move))
  | begins (config : BackendConfig) (idle : f.session.state = .idle) :
    Shifts f (.step (.start config)) [.starting]
  | fails (config : BackendConfig) (idle : f.session.state = .idle) :
    Shifts f (.step (.start config)) [.idle, .starting]
  | launchesAtOnce (config : BackendConfig) (idle : f.session.state = .idle) :
    Shifts f (.step (.start config)) [.running, .starting]
  | launches (attempt : Nat) (starting : f.session.state = .starting) :
    Shifts f (.connection attempt .ok) [.running]
  | aborts (attempt : Nat) (reply : Reply ConnectError) (starting : f.session.state = .starting) :
    Shifts f (.connection attempt reply) [.idle]
  | abandons (starting : f.session.state = .starting) : Shifts f (.step .abandonStart) [.idle]
  | ends (number : Nat) (result : Option RunError) (attached : f.session.state.Attached) :
    Shifts f (.runEnds number (RunError.reply result)) [.idle, (SyncOutcome.ofRun result).state]

structure Writes (f g : Follower) (states : List SyncState) : Prop where
  assigned : assigned g.history = states ++ assigned f.history
  state : g.session.state = states.headD f.session.state

abbrev Unwritten (f g : Follower) : Prop := Writes f g []

namespace Writes

variable {f g h : Follower} {states more : List SyncState}

theorem of_same (state : g.session.state = f.session.state) (history : g.history = f.history) :
    Unwritten f g :=
  ⟨congrArg ChainFollower.assigned history, state⟩

theorem trans (first : Writes f g states) (second : Writes g h more) :
    Writes f h (more ++ states) where
  assigned := by rw [second.assigned, first.assigned, List.append_assoc]
  state := by
    rw [second.state, first.state]
    cases more <;> rfl

theorem kept (first : Writes f g states) (second : Unwritten g h) : Writes f h states :=
  first.trans second

theorem since (first : Unwritten f g) (second : Writes g h states) : Writes f h states := by
  have both := first.trans second
  rwa [List.append_nil] at both

instance : Std.Refl Unwritten := ⟨fun _ => of_same rfl rfl⟩

instance : IsTrans Follower Unwritten := ⟨fun _ _ _ => kept⟩

theorem of_new {new : List Happening} (history : g.history = new ++ f.history)
    (others : ChainFollower.assigned new = []) (state : g.session.state = f.session.state) :
    Unwritten f g :=
  ⟨by rw [history, assigned_append, others], state⟩

theorem note (f : Follower) {happening : Happening}
    (other : ChainFollower.assigned [happening] = []) : Unwritten f (f.note happening) := by
  have grown : (f.note happening).history = [happening] ++ f.history := rfl
  exact of_new grown other rfl

theorem of_sameSync (sync : SameSync f g) : Unwritten f g := by
  obtain ⟨new, history, silent⟩ := sync.history
  refine of_new history ?_ (congrArg Session.state sync.session)
  refine List.filterMap_eq_nil_iff.mpr fun happening member => ?_
  have kind := silent happening member
  cases happening with
  | stateSet state => exact kind.elim
  | _ => rfl

theorem of_sameTasksAndClient (spared : SameTasksAndClient f g) : Unwritten f g :=
  of_sameSync spared.sameSync

theorem of_told {sent : Event → Prop} (told : Told sent f g) : Unwritten f g := by
  obtain ⟨ls, ts, hs, rfl, _, _, telling⟩ := told
  refine of_new rfl ?_ rfl
  refine List.filterMap_eq_nil_iff.mpr fun happening member => ?_
  have kind := telling happening member
  cases happening with
  | stateSet state => exact kind.elim
  | _ => rfl

theorem setState (f : Follower) (state : SyncState) : Writes f (f.setState state) [state] :=
  ⟨rfl, rfl⟩

theorem setWalletLink (link : Option Link) : Keeps Unwritten (setWalletLink link) := by
  refine keeps_bind (keeps_update fun f => note f rfl) fun _ => ?_
  exact keeps_bind (keeps_panicAt _) fun _ => keeps_update fun f => of_same rfl rfl

theorem setLoaderLink (link : Option Link) : Keeps Unwritten (setLoaderLink link) := by
  refine keeps_bind (keeps_update fun f => note f rfl) fun _ => ?_
  exact keeps_bind (keeps_panicAt _) fun _ => keeps_update fun f => of_same rfl rfl

theorem close : Keeps Unwritten Follower.close :=
  keeps_close (fun calls => of_sameTasksAndClient calls.sameTasksAndClient)
    (fun f _ => of_sameTasksAndClient (.saw f trivial)) (setWalletLink none) (setLoaderLink none)

theorem notify (kind : BackendKind) (notification : Notification) (f : Follower) :
    Writes f (f.notify kind notification)
      (flips f.session.state notification.synced?.toList) := by
  have told (f : Follower) (record : LogRecord) (event : Event) :
      Unwritten f ((f.log record).broadcast event) :=
    of_told ((Told.log f record).trans ((Told.broadcast event _).mono fun _ => id))
  cases notification with
  | synced caughtUp =>
    simp only [Follower.notify, Notification.synced?, Option.toList, flips]
    cases syncedState? f.session.state caughtUp with
    | none => exact of_told (Told.broadcast _ f)
    | some state => exact (setState f state).kept (told _ _ _)
  | peerConnected count =>
    simp only [Follower.notify]
    split
    · exact told f _ _
    · exact of_same rfl rfl
  | peerDisconnected count =>
    simp only [Follower.notify]
    split
    · exact told f _ _
    · exact of_same rfl rfl
  | rescanProgress height => exact of_told (Told.broadcast _ f)
  | rescanFinished height => exact of_told (Told.broadcast _ f)

theorem notifyEach (kind : BackendKind) (notices : List Notification) (f : Follower) :
    Writes f (notices.foldl (Follower.notify kind) f)
      (flips f.session.state (notices.filterMap Notification.synced?)) := by
  induction notices generalizing f with
  | nil => exact of_same rfl rfl
  | cons notice rest ih =>
    have first := notify kind notice f
    have all : (notice :: rest).filterMap Notification.synced? =
        notice.synced?.toList ++ rest.filterMap Notification.synced? := by
      rw [List.filterMap_cons]
      cases notice.synced? <;> rfl
    rw [all, flips_append, ← first.state]
    exact first.trans (ih _)

theorem callRun (f : Follower) (run : RunLoop) :
    Writes f (f.callRun run) (flips f.session.state (f.openings run.backend)) := by
  let begun := f.runs.map (fun other =>
    if other.number = run.number then { other with begun := true } else other)
  let called := { f with runs := begun }.saw (.run run.backend.syncer f.session.state)
  have calls : Unwritten f called := ⟨rfl, rfl⟩
  exact calls.since (notifyEach _ _ called)

theorem entered (f : Follower) (config : BackendConfig) : Writes f (f.entered config) [.starting] :=
  ⟨rfl, rfl⟩

theorem abortStart (f : Follower) : Writes f f.abortStart [.idle] :=
  ⟨congrArg ChainFollower.assigned (abortStart_history f), rfl⟩

theorem attached (f : Follower) (backend : Backend) : Writes f (f.attached backend) [.running] :=
  ⟨rfl, rfl⟩

theorem launched {attempt : Nat} {backend : Backend} {result : Except Stop Nat} (calm : f.Calm)
    (launched : Launched attempt backend f (result, g)) : Writes f g [.running] := by
  cases launched with
  | @done h sync => exact ((attached f backend).kept (of_sameSync sync)).kept (of_same rfl rfl)
  | panicked breaks => exact absurd calm breaks

theorem resumed {start : PendingStart} {reply : Reply ConnectError} {result : Except Stop Nat}
    (calm : f.Calm) (resume : ResumeComesTo start reply f (result, g)) :
    Writes f g [.idle] ∨ reply = .ok ∧ Writes f g [.running] := by
  cases resume with
  | stopped sync late => exact Or.inl ((of_sameSync sync).since (abortStart _))
  | built accepted sync launch =>
    have running := launched (calm.of_faults sync.faults) launch
    exact Or.inr ⟨accepted, (of_sameSync sync).since running⟩

theorem detached (f : Follower) : Writes f f.detached [.idle] := ⟨rfl, rfl⟩

theorem finishRun (f : Follower) (run : RunLoop) (result : Option RunError) (hold : f.LinksHold) :
    Writes f (f.finishRun run (RunError.reply result))
      [.idle, (SyncOutcome.ofRun result).state] := by
  rw [finishRun_returned f run result hold]
  have taken : Unwritten f (f.withoutRun run) := of_same rfl rfl
  have ended : Writes f ((f.withoutRun run).ending run.backend result)
      [(SyncOutcome.ofRun result).state] :=
    (taken.since (setState _ _)).kept
      (of_sameSync (Dialled.ending _ run.backend result).sameTasks.toSameSync)
  have told : Unwritten (f.runDetached run result) _ :=
    of_told (told_reportEnd _ run.backend.kind result)
  exact ((ended.trans (detached _)).kept told).kept (note _ rfl)

end Writes

theorem Shifts.documented {f : Follower} {move : Move} {new states : List SyncState}
    (shifts : f.Shifts move new) (before : Documented states f.session.state) :
    Documented (new ++ states) (new.headD f.session.state) := by
  cases shifts with
  | told => exact documented_flips before _
  | begins config idle => exact .begins (idle ▸ before)
  | fails config idle => exact .aborts (.begins (idle ▸ before))
  | launchesAtOnce config idle => exact .launches (.begins (idle ▸ before))
  | launches attempt starting => exact .launches (starting ▸ before)
  | aborts attempt reply starting => exact .aborts (starting ▸ before)
  | abandons starting => exact .aborts (starting ▸ before)
  | ends number result attached =>
    exact .ends before attached (SyncOutcome.state_cases _)

section
variable {c : Course} {g : Follower}

open Writes

abbrev Shifted (f : Follower) (move : Move) (g : Follower) : Prop :=
  ∃ new, f.Shifts move new ∧ Writes f g new

theorem shifted_of_unwritten {f g : Follower} {move : Move} (silent : f.sayings move = [])
    (unwritten : Unwritten f g) : Shifted f move g := by
  have told := Shifts.told (f := f) move
  rw [silent] at told
  exact ⟨[], told, unwritten⟩

theorem shifted_start (calm : c.follower.Calm) (settled : Course.Settled c.follower)
    (config : BackendConfig) :
    Shifted c.follower (.step (.start config)) ((startSync config).run c.follower).2 := by
  have comes := comesTo_startSync config c.follower
  revert comes
  generalize (startSync config).run c.follower = result
  intro comes
  have idle (free : c.follower.startBarrier? = none) : c.follower.session.state = .idle :=
    settled.idle (startBarrier_free free).2.1
  have entered := Writes.entered c.follower config
  cases comes with
  | barred bars => exact shifted_of_unwritten rfl (of_same rfl rfl)
  | stopped free sync late =>
    exact ⟨_, .fails config (idle free), (entered.kept (of_sameSync sync)).trans (.abortStart _)⟩
  | waiting client server free sync =>
    exact ⟨_, .begins config (idle free), (entered.kept (of_sameSync sync)).kept (of_same rfl rfl)⟩
  | launched free sync launch =>
    have running := launched (calm.of_faults sync.faults) launch
    exact ⟨_, .launchesAtOnce config (idle free), (entered.kept (of_sameSync sync)).trans running⟩
  | panicked backend free sync launch =>
    have running := launched (calm.of_faults sync.faults) launch
    exact ⟨_, .launchesAtOnce config (idle free), (entered.kept (of_sameSync sync)).trans running⟩

theorem shifted_step (sound : c.Sound) (calm : c.follower.Calm)
    (settled : Course.Settled c.follower) (step : Scenario.Step) :
    Shifted c.follower (.step step) (step.perform c.follower).2 := by
  by_cases leaves : step.LeavesSync
  · have sync := Scenario.Step.sameSync_perform leaves c.follower
    refine shifted_of_unwritten ?_ (of_sameSync sync)
    cases step with
    | notify notification => exact leaves.elim
    | _ => rfl
  · cases step with
    | start config => exact shifted_start calm settled config
    | abandonStart =>
      simp only [Scenario.Step.perform, Scenario.Step.flagOf, abandonStart]
      split
      · exact shifted_of_unwritten rfl (of_same rfl rfl)
      · rename_i start rest pending
        obtain ⟨starting, _⟩ := sound.pending (by simp [pending] : start ∈ c.follower.starts)
        have taken : Unwritten c.follower { c.follower with starts := rest } := of_same rfl rfl
        exact ⟨_, .abandons starting, (taken.since (.abortStart _)).kept (Writes.note _ rfl)⟩
    | close => exact shifted_of_unwritten rfl (Writes.close c.follower)
    | closeWallet =>
      have cancelled := (SameSync.cancelQuietly c.follower).trans (SameSync.cancelRescan _)
      exact shifted_of_unwritten rfl ((of_sameSync cancelled).kept (Writes.close _))
    | notify notification =>
      have told := Shifts.told (f := c.follower) (.step (.notify notification))
      simp only [Scenario.Step.perform]
      split
      · rename_i none
        exact shifted_of_unwritten (by simp [sayings, none]) (of_same rfl rfl)
      · rename_i syncer script others some
        have saying : c.follower.sayings (.step (.notify notification)) =
            notification.synced?.toList := by simp [sayings, some]
        exact ⟨_, told, saying ▸ Writes.notify syncer.kind notification c.follower⟩
    | fail place fault =>
      refine shifted_of_unwritten rfl ?_
      simp only [Scenario.Step.perform, Scenario.Step.setFault]
      split <;> exact of_same rfl rfl
    | attach link => exact shifted_of_unwritten rfl (of_same rfl rfl)
    | _ => exact absurd trivial leaves

theorem shifted_connection (sound : c.Sound) (calm : c.follower.Calm) {start : PendingStart}
    (pending : start ∈ c.follower.starts) (reply : Reply ConnectError) :
    Shifted c.follower (.connection start.attempt reply) (c.follower.finishStart start reply) := by
  let taken := { c.follower with
    starts := c.follower.starts.filter (fun other => other.attempt != start.attempt) }
  obtain ⟨starting, _⟩ := sound.pending pending
  have taking : Unwritten c.follower taken := of_same rfl rfl
  have still : taken.Calm := calm.of_faults rfl
  rw [finishStart_eq]
  rcases resumed still (comesTo_resumeStart start reply taken) with aborted | ⟨rfl, launched⟩
  · exact ⟨_, .aborts _ _ starting, (taking.since aborted).kept (Writes.note _ rfl)⟩
  · exact ⟨_, .launches _ starting, (taking.since launched).kept (Writes.note _ rfl)⟩

theorem shifted_runEnds (sound : c.Sound) (calm : c.follower.Calm) {run : RunLoop}
    (member : run ∈ c.follower.runs) (reply : Reply RunError) :
    Shifted c.follower (.runEnds run.number reply) (c.follower.finishRun run reply) := by
  have returned (result : Option RunError) : Shifted c.follower
      (.runEnds run.number (RunError.reply result))
      (c.follower.finishRun run (RunError.reply result)) :=
    ⟨_, .ends run.number result (sound.running member).1,
      Writes.finishRun c.follower run result calm.toLinksHold⟩
  cases reply with
  | ok => exact returned none
  | error e => exact returned (some e)
  | panic text => exact shifted_of_unwritten rfl ⟨rfl, rfl⟩

theorem shifted_move (sound : c.Sound) (calm : c.follower.Calm)
    (settled : Course.Settled c.follower) {move : Move}
    (made : c.follower.move? move = some g) : Shifted c.follower move g := by
  cases move with
  | step step => exact Option.some.inj made ▸ shifted_step sound calm settled step
  | notice kind notification =>
    cases made
    exact ⟨_, .told (.notice kind notification), Writes.notify kind notification c.follower⟩
  | connection attempt reply =>
    obtain ⟨start, found, rfl⟩ := Option.map_eq_some_iff.mp made
    have same : start.attempt = attempt := by simpa using List.find?_some found
    exact same ▸ shifted_connection sound calm (List.mem_of_find?_eq_some found) reply
  | call number =>
    obtain ⟨run, found, called⟩ := Option.bind_eq_some_iff.mp made
    split at called
    · contradiction
    · cases called
      have saying : c.follower.sayings (.call number) = c.follower.openings run.backend := by
        simp [sayings, found]
      exact ⟨_, .told (.call number), saying ▸ Writes.callRun c.follower run⟩
  | runEnds number reply =>
    obtain ⟨run, found, ended⟩ := Option.bind_eq_some_iff.mp made
    have same : run.number = number := by simpa using List.find?_some found
    split at ended
    · cases ended
      exact same ▸ shifted_runEnds sound calm (List.mem_of_find?_eq_some found) reply
    · contradiction
  | produce number =>
    have turned : c.follower.rescanTurn produce number = some g := made
    exact shifted_of_unwritten rfl (of_sameSync (Rescans.rescanTurn Rescans.produce turned).sameSync)
  | consume number =>
    have turned : c.follower.rescanTurn consume number = some g := made
    exact shifted_of_unwritten rfl (of_sameSync (Rescans.rescanTurn Rescans.consume turned).sameSync)

end

def calls (f g : Follower) : Nat := f.stock.count .cancelSync - g.stock.count .cancelSync

end Follower

namespace Trail

variable {stages : List Stage} {f : Follower}

theorem shifted (trail : Trail stages f) (calm : ∀ stage ∈ stages, stage.before.Calm) :
    ∀ stage ∈ stages, stage.before.Shifted stage.move stage.after := by
  intro stage member
  obtain ⟨earlier, before, subset, made⟩ := trail.stage member
  have settled := before.settled fun stage inside => calm stage (subset inside)
  obtain ⟨c, sound, same⟩ := before.sound
  rw [← same] at made settled ⊢
  exact Follower.shifted_move sound (same ▸ calm stage member) settled made

theorem documented (trail : Trail stages f) (calm : ∀ stage ∈ stages, stage.before.Calm) :
    Documented (assigned f.history) f.session.state := by
  induction trail with
  | @setUp setup f accepted =>
    have fresh := Scenario.Setup.fresh accepted
    rw [fresh.history, fresh.session]
    exact .fresh
  | @move stages f g move before made ih =>
    have documented := ih fun stage member => calm stage (List.mem_cons_of_mem _ member)
    obtain ⟨new, shifts, writes⟩ := (before.move made).shifted calm _ List.mem_cons_self
    rw [writes.assigned, writes.state]
    exact shifts.documented documented

end Trail

end ChainFollower

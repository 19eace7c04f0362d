import ChainFollower.Proofs.Dialling
import ChainFollower.Proofs.Reporting
import ChainFollower.Proofs.Trail

/-! The client of a server that is kept from one start to the next, told from the stages of a run: it
is the one that was connected last, until a run on it fails. -/
namespace ChainFollower

namespace Stage

open Follower

/-- The connection of the client has this reply in the stage: the start that waits for it gets it, or
one that connects need not wait. -/
inductive Connects (stage : Stage) (client : Client) (reply : Reply ConnectError) : Prop where
  | waited {start : PendingStart} (pending : start ∈ stage.before.starts)
      (move : stage.move = .connection start.attempt reply) (same : start.client = client) :
    Connects stage client reply
  | atOnce {config : BackendConfig} {new : List Sight} {state : SyncState}
      (move : stage.move = .step (.start config))
      (dialled : dials stage.after.history = new ++ dials stage.before.history)
      (connect : .connect client state ∈ new)
      (replies : stage.before.scripts.rpcConnect.reply?
        (stage.before.isCancelled (.start (stage.before.counts.startAttempts + 1))) = some reply) :
    Connects stage client reply

def FailsServer (stage : Stage) : Prop :=
  ∃ run ∈ stage.before.runs, ∃ e, stage.move = .runEnds run.number (.error e) ∧
    run.backend.kind = .rpc ∧ RunError.Fails (some e)

/-- What the stage does to the client that is kept; none is while a start waits. -/
structure Keeps (stage : Stage) : Prop where
  stored : ∀ client, stage.Connects client .ok → stage.after.cache = some client
  dropped : stage.FailsServer → stage.after.cache = none
  same : (∀ client, ¬ stage.Connects client .ok) → ¬ stage.FailsServer →
    stage.after.cache = stage.before.cache
  waits : stage.after.starts ≠ [] → stage.after.cache = none

end Stage

namespace Follower

open Act

namespace Undialled

variable {f g : Follower}

theorem detach : Keeps Undialled detach := by
  refine keeps_bind (keeps_update fun f => of_same rfl rfl) fun _ => ?_
  refine keeps_bind (fun f => of_harmless (.setWalletLink none f)) fun _ => ?_
  refine keeps_bind (fun f => of_harmless (.setLoaderLink none f)) fun _ => ?_
  exact keeps_update fun f => of_harmless (.setState f .idle)

theorem abandonStart (f : Follower) : Undialled f f.abandonStart.1 := by
  unfold Follower.abandonStart
  split
  · exact refl f
  · rename_i rest _
    have taken : Undialled f { f with starts := rest } := of_same rfl rfl
    exact (taken.trans (abortStart _)).trans (note _ rfl)

/-- Only starts, and the calls of the client's shelf, have to do with the client that is kept. -/
theorem perform {step : Scenario.Step} (starts : ∀ config, step ≠ .start config)
    (stores : step ≠ .cacheStore) (drops : step ≠ .cacheInvalidate) (f : Follower) :
    Undialled f (step.perform f).2 := by
  by_cases spares : step.SparesTasks
  · exact of_sameTasksAndClient (Scenario.Step.sameTasksAndClient_perform spares f)
  · cases step with
    | start config => exact absurd rfl (starts config)
    | cacheStore => exact absurd rfl stores
    | cacheInvalidate => exact absurd rfl drops
    | abandonStart => exact abandonStart f
    | close => exact of_harmless (.close f)
    | closeWallet =>
      have cancelled : Undialled f f.cancelQuietly.cancelRescan :=
        (cancelQuietly f).trans (cancelRescan _)
      exact cancelled.trans (of_harmless (.close _))
    | cancelSync => exact of_told (Told.cancelSync f)
    | cancelRescan => exact cancelRescan f
    | startRescan => exact of_rescans (Rescans.startRescan f)
    | shutdown => exact ⟨rfl, rfl⟩
    | addListener listener =>
      have silent : Told (fun _ => False) f (f.addListener listener) := Told.addListener f listener
      exact of_told silent
    | notify notification =>
      simp only [Scenario.Step.perform]
      split
      · exact refl f
      · exact of_harmless (.notify _ _ f)
    | rescanScript script => exact of_same rfl rfl
    | rescanFeed items ending =>
      simp only [Scenario.Step.perform, Scenario.Step.flagOf, Scenario.Step.feed]
      split
      · exact refl f
      · exact of_same rfl rfl
    | fail place fault =>
      simp only [Scenario.Step.perform, Scenario.Step.setFault]
      split <;> exact of_same rfl rfl
    | attach link => exact of_same rfl rfl
    | _ => exact absurd ⟨trivial, id⟩ spares

end Undialled

theorem cache_finishRun (f : Follower) (run : RunLoop) (result : Option RunError) :
    (f.finishRun run (RunError.reply result)).cache = (f.runDetached run result).cache := by
  let e := (f.withoutRun run).ending run.backend result
  have detached := Undialled.detach e
  have detachedCache : (f.runDetached run result).cache = e.cache := rfl
  rw [finishRun_eq, detachedCache, ← detached.cache]
  split
  · rename_i g came
    have told : Undialled g _ := Undialled.of_told (told_reportEnd g run.backend.kind result)
    rw [came]
    exact told.cache
  · rename_i came
    rw [came]
    rfl
  · rename_i came
    rw [came]
    rfl

theorem Undialled.launchOrAbort (attempt : Nat) (came : Except Stop Backend × Follower) :
    Undialled came.2 (launchOrAbort attempt came).2 := by
  obtain ⟨stop | backend, g⟩ := came
  · exact aborted g stop
  · exact launch attempt backend g

theorem starts_launchOrAbort (attempt : Nat) (came : Except Stop Backend × Follower) :
    (launchOrAbort attempt came).2.starts = came.2.starts := by
  obtain ⟨stop | backend, g⟩ := came
  · exact congrArg Standing.starts (stopped_standing g stop)
  · have launched := launched_launch attempt backend g
    have launching : launchOrAbort attempt (.ok backend, g) = (launch attempt backend).run g := rfl
    rw [launching]
    revert launched
    generalize (launch attempt backend).run g = result
    intro launched
    cases launched with
    | done sync => exact sync.starts
    | panicked breaks stays => exact stays.starts

/-- A start waits after the call exactly if the call says so. -/
theorem waits_startSync {config : BackendConfig} {f g : Follower} {result : Except Stop Started}
    (vacant : f.starts = []) (start : StartComesTo config f (result, g)) (waits : g.starts ≠ []) :
    result = .ok .pending := by
  have launches {attempt : Nat} {backend : Backend} {h : Follower} {result : Except Stop Nat}
      (sync : SameSync (f.entered config) h) (launched : Launched attempt backend h (result, g)) :
      g.starts = [] := by
    have before : h.starts = [] := sync.starts.trans vacant
    cases launched with
    | done told => exact told.starts.trans before
    | panicked breaks stays => exact stays.starts.trans before
  cases start with
  | barred => exact absurd vacant waits
  | @stopped stop h free sync late =>
    have standing := abortStart_standing h
    exact absurd ((congrArg Standing.starts standing).trans (sync.starts.trans vacant)) waits
  | waiting => rfl
  | launched free sync launch => exact absurd (launches sync launch) waits
  | panicked backend free sync launch => exact absurd (launches sync launch) waits

/-- What becomes of a start that waits once it has its reply. -/
theorem replied_finishStart {f : Follower} (start : PendingStart) (reply : Reply ConnectError)
    (empty : f.cache = none) (vacant : f.runs = []) :
    ∃ result g, f.finishStart start reply = g.note (.startEnded (StartOutcome.ofResult result)) ∧
      g.starts = f.starts.filter (fun other => other.attempt != start.attempt) ∧
      dials g.history = dials f.history ∧
      Replied f (f.isCancelled (.start start.attempt)) start.client reply (result, g) := by
  let taken := { f with
    starts := f.starts.filter (fun other => other.attempt != start.attempt) }
  let came := (connected start.attempt start.client start.address reply).run taken
  have uncached : taken.cache = none := empty
  have still : taken.runs = [] := vacant
  obtain ⟨dialled, replied⟩ :=
    replied_connected start.attempt start.client start.address reply uncached still
  have built := (builds_connected start.attempt start.client start.address reply).sameSync taken
  refine ⟨(launchOrAbort start.attempt came).1, (launchOrAbort start.attempt came).2, ?_, ?_,
    dialled, replied.since ⟨[], rfl⟩⟩
  · rw [finishStart_eq]
    dsimp only
    rw [run_resumeStart_ready]
  · exact (starts_launchOrAbort start.attempt came).trans built.starts

/-- Only a call to start makes a start wait. -/
theorem waits_before {f g : Follower} {move : Move} (moved : Moved f move g)
    (other : ∀ config, move ≠ .step (.start config)) (waits : g.starts ≠ []) : f.starts ≠ [] := by
  cases moved with
  | stays stays => exact stays.starts ▸ waits
  | started config => exact absurd rfl (other config)
  | resumed pending => exact List.ne_nil_of_mem pending
  | abandoned pending => simp [pending]
  | panicked => exact waits
  | returned result member begun ended => exact ended.starts ▸ waits

end Follower

namespace Stage

open Follower

theorem Connects.new_of_start {f g : Follower} {config : BackendConfig} {client : Client}
    {reply : Reply ConnectError} {new : List Sight}
    (connects : Connects ⟨f, .step (.start config), g⟩ client reply)
    (dialled : dials g.history = new ++ dials f.history) :
    (∃ state, .connect client state ∈ new) ∧ f.scripts.rpcConnect.reply?
      (f.isCancelled (.start (f.counts.startAttempts + 1))) = some reply := by
  cases connects with
  | waited pending move => contradiction
  | @atOnce config new' state move dialled' connect replies =>
    have same : new' = new := List.append_cancel_right (dialled'.symm.trans dialled)
    exact ⟨⟨state, same ▸ connect⟩, replies⟩

/-- Nothing is dialled in the stage, and no start that waits gets its reply. -/
theorem Keeps.of_undialled {f g : Follower} {move : Move} (undialled : Undialled f g)
    (waits : g.starts ≠ [] → f.cache = none)
    (unanswered : ∀ attempt, move ≠ .connection attempt .ok)
    (goesOn : ¬ FailsServer ⟨f, move, g⟩) : Keeps ⟨f, move, g⟩ := by
  refine ⟨fun client connects => ?_, fun fails => absurd fails goesOn, fun _ _ => undialled.cache,
    fun waiting => undialled.cache.trans (waits waiting)⟩
  cases connects with
  | waited pending move => exact absurd move (unanswered _)
  | @atOnce config new state move dialled connect replies =>
    have none : new = [] :=
      List.append_cancel_right (dialled.symm.trans undialled.dials)
    simp [none] at connect

/-- No client is kept before or after a start whose connection was not accepted at once. -/
theorem Keeps.of_empty {f g : Follower} {config : BackendConfig}
    (refused : ∀ client, ¬ Connects ⟨f, .step (.start config), g⟩ client .ok)
    (before : f.cache = none) (after : g.cache = none) :
    Keeps ⟨f, .step (.start config), g⟩ := by
  refine ⟨fun client connects => absurd connects (refused client), ?_, ?_, fun _ => after⟩
  · rintro ⟨_, _, _, other, _⟩
    contradiction
  · exact fun _ _ => after.trans before.symm

theorem Keeps.of_accepted {f g : Follower} {config : BackendConfig} {client : Client}
    {params : ServerParams}
    (dialled : dials g.history =
      .connect client .starting :: .rpcClient params :: dials f.history)
    (replies : f.scripts.rpcConnect.reply?
      (f.isCancelled (.start (f.counts.startAttempts + 1))) = some .ok)
    (kept : g.cache = some client) (goesOn : ¬ g.starts ≠ []) :
    Keeps ⟨f, .step (.start config), g⟩ := by
  have grown : dials g.history = [_, _] ++ dials f.history := dialled
  refine ⟨fun other connects => ?_, ?_, fun none => ?_, fun waits => absurd waits goesOn⟩
  · obtain ⟨⟨_, connect⟩, _⟩ := connects.new_of_start grown
    have named : other = client := by
      simp only [List.mem_cons, Sight.connect.injEq, reduceCtorEq, List.not_mem_nil, or_false]
        at connect
      exact connect.1
    rw [named]
    exact kept
  · rintro ⟨_, _, _, other, _⟩
    contradiction
  · exact absurd (.atOnce rfl grown List.mem_cons_self replies) (none client)

theorem map_launched_ne_pending (result : Except Stop Nat) :
    result.map Started.launched ≠ .ok .pending := by
  cases result <;> exact nofun

theorem keeps_server {f : Follower} {address username password : String} {certificate : Bytes}
    {came : Except Stop Started × Follower} {config : BackendConfig}
    (start : ServerStart f address username password certificate came)
    (pending : came.2.starts ≠ [] → came.1 = .ok .pending) :
    Keeps ⟨f, .step (.start config), came.2⟩ := by
  cases cached : f.cache with
  | some client =>
    obtain ⟨undialled, _, goesOn⟩ := start.reused client cached
    refine .of_undialled undialled (fun waits => ?_) nofun ?_
    · have waiting := pending waits
      rcases goesOn with ⟨number, came⟩ | ⟨text, came⟩
      · cases came.symm.trans waiting
      · cases came.symm.trans waiting
    · rintro ⟨_, _, _, other, _⟩
      contradiction
  | none =>
    cases valid : Endpoint.ofAddress f.config.network.rpcPort address with
    | error e =>
      obtain ⟨_, undialled⟩ := start.invalid e cached valid
      refine .of_empty (fun client connects => ?_) cached (undialled.cache.trans cached)
      have grown : dials came.2.history = [] ++ dials f.history := undialled.dials
      obtain ⟨⟨_, connect⟩, _⟩ := connects.new_of_start grown
      contradiction
    | ok endpoint =>
      cases faulty : f.fault? .rpcClient with
      | some fault =>
        obtain ⟨_, empty, dialled⟩ := start.unmade endpoint fault cached valid faulty
        refine .of_empty (fun client connects => ?_) cached empty
        have grown : dials came.2.history = [_] ++ dials f.history := dialled
        obtain ⟨⟨_, connect⟩, _⟩ := connects.new_of_start grown
        simp at connect
      | none =>
        obtain ⟨dialled, replied⟩ := start.connects endpoint cached valid faulty
        have grown : dials came.2.history = [_, _] ++ dials f.history := dialled
        have refused (other : f.scripts.rpcConnect.reply?
            (f.isCancelled (.start (f.counts.startAttempts + 1))) ≠ some .ok) (client : Client) :
            ¬ Connects ⟨f, .step (.start config), came.2⟩ client .ok :=
          fun connects => other (connects.new_of_start grown).2
        split at replied
        · rename_i reply replies
          obtain ⟨result, replied, same⟩ := replied
          cases replied with
          | refused reported empty => exact .of_empty (refused (by simp [replies])) cached empty
          | broken text empty => exact .of_empty (refused (by simp [replies])) cached empty
          | accepted kept uses goesOn =>
            refine .of_accepted dialled replies kept fun waits => ?_
            exact map_launched_ne_pending result (same.symm.trans (pending waits))
        · rename_i silent
          obtain ⟨_, empty, _⟩ := replied
          exact .of_empty (refused (by simp [silent])) cached empty

variable {c : Course} {g : Follower}

theorem keeps_start (sound : c.Sound)
    (waits : c.follower.starts ≠ [] → c.follower.cache = none) (config : BackendConfig) :
    Keeps ⟨c.follower, .step (.start config), ((startSync config).run c.follower).2⟩ := by
  let f := c.follower
  have goesOn : ¬ FailsServer ⟨f, .step (.start config), ((startSync config).run f).2⟩ := by
    rintro ⟨_, _, _, other, _⟩
    contradiction
  cases barrier : f.startBarrier? with
  | some e =>
    have same : ((startSync config).run f).2 = f := by rw [run_startSync, barrier]
    rw [same]
    exact .of_undialled (.refl f) waits nofun (same ▸ goesOn)
  | none =>
    obtain ⟨_, vacant, idle, _⟩ := sound.free barrier
    cases config with
    | spv peers =>
      let attempt := f.counts.startAttempts + 1
      have building : (build attempt (.spv peers)).run (f.entered (.spv peers)) =
        (some <$> buildSpv peers).run (f.entered (.spv peers)) := rfl
      have spared := (builds_buildSpv peers).sameTasksAndClient.keeps (f.entered (.spv peers))
      have entered : Undialled f (f.entered (.spv peers)) := .entered f _
      have came := run_startSync_ready barrier building
      rw [came] at goesOn ⊢
      refine .of_undialled ?_ (fun waiting => absurd ?_ waiting) nofun goesOn
      · exact (entered.trans (.of_sameTasksAndClient spared)).trans (.launchOrAbort attempt _)
      · exact (starts_launchOrAbort attempt _).trans (spared.sameTasks.starts.trans vacant)
    | rpc address username password certificate =>
      exact keeps_server (serverStart_startSync address username password certificate barrier idle)
        (waits_startSync vacant (comesTo_startSync _ f))

theorem keeps_connection (sound : c.Sound) {start : PendingStart}
    (pending : start ∈ c.follower.starts) (empty : c.follower.cache = none)
    (reply : Reply ConnectError) :
    Keeps ⟨c.follower, .connection start.attempt reply, c.follower.finishStart start reply⟩ := by
  obtain ⟨_, _, alone, _, vacant, _⟩ := sound.pending pending
  obtain ⟨result, g, came, starts, _, replied⟩ := replied_finishStart start reply empty vacant
  have gone : g.starts = [] := by simpa [alone] using starts
  rw [came]
  have answers {client : Client} (connects :
      Connects ⟨c.follower, .connection start.attempt reply,
        g.note (.startEnded (StartOutcome.ofResult result))⟩ client .ok) :
      reply = .ok ∧ client = start.client := by
    cases connects with
    | @waited other inside move same =>
      obtain ⟨_, accepted⟩ := Move.connection.inj move
      have named : other = start := by simpa [alone] using inside
      exact ⟨accepted, by rw [← same, named]⟩
    | atOnce move => contradiction
  refine ⟨fun client connects => ?_, ?_, fun none _ => ?_, fun waits => absurd gone waits⟩
  · obtain ⟨rfl, rfl⟩ := answers connects
    cases replied with
    | accepted kept uses goesOn => exact kept
  · rintro ⟨_, _, _, other, _⟩
    contradiction
  · cases replied with
    | refused reported after => exact after.trans empty.symm
    | broken text after => exact after.trans empty.symm
    | accepted kept => exact absurd (.waited pending rfl rfl) (none start.client)

theorem keeps_runEnds (sound : c.Sound) {run : RunLoop} (member : run ∈ c.follower.runs)
    (reply : Reply RunError) :
    Keeps ⟨c.follower, .runEnds run.number reply, c.follower.finishRun run reply⟩ := by
  obtain ⟨_, _, _, vacant, alone, _⟩ := sound.running member
  have returned (result : Option RunError) : Keeps ⟨c.follower,
      .runEnds run.number (RunError.reply result),
      c.follower.finishRun run (RunError.reply result)⟩ := by
    have cache := cache_finishRun c.follower run result
    obtain ⟨emptied, kept⟩ := runDetached_cache c.follower run result
    have starts := (runReturned_finishRun c.follower run result).starts.trans vacant
    refine ⟨fun client connects => ?_, ?_, fun _ goesOn => ?_, fun waits => absurd starts waits⟩
    · cases connects with
      | waited _ move => contradiction
      | atOnce move => contradiction
    · rintro ⟨other, inside, e, move, server, fails⟩
      have named : other = run := by simpa [alone] using inside
      have same : result = some e := by
        have replies := (Move.runEnds.inj move).2
        cases result with
        | none => cases replies
        | some found => exact congrArg some (Reply.error.inj replies)
      exact cache.trans (emptied ⟨same ▸ fails, named ▸ server⟩)
    · refine cache.trans (kept ?_)
      rintro ⟨fails, server⟩
      cases result with
      | none => rcases fails with other | ⟨text, other⟩ <;> cases other
      | some e => exact goesOn ⟨run, member, e, rfl, server, fails⟩
  cases reply with
  | ok => exact returned none
  | error e => exact returned (some e)
  | panic text =>
    have dropped : Undialled c.follower (c.follower.withoutRun run) := .of_same rfl rfl
    refine .of_undialled (dropped.trans (.note _ rfl)) (fun waits => absurd vacant waits) nofun ?_
    rintro ⟨_, _, _, other, _⟩
    cases (Move.runEnds.inj other).2

/-- Every move but those of the client's shelf itself does this to the client that is kept. -/
theorem keeps_move (sound : c.Sound) (waits : c.follower.starts ≠ [] → c.follower.cache = none)
    {move : Move} (made : c.follower.move? move = some g) (stores : move ≠ .step .cacheStore)
    (drops : move ≠ .step .cacheInvalidate) : Keeps ⟨c.follower, move, g⟩ := by
  have moved := moved_of_move made
  have still (undialled : Undialled c.follower g) (goesOn : ∀ config, move ≠ .step (.start config))
      (unanswered : ∀ attempt, move ≠ .connection attempt .ok)
      (unended : ∀ number e, move ≠ .runEnds number (.error e)) : Keeps ⟨c.follower, move, g⟩ := by
    refine .of_undialled undialled (fun after => waits (waits_before moved goesOn after)) unanswered ?_
    rintro ⟨run, _, e, ended, _⟩
    exact unended run.number e ended
  cases move with
  | step step =>
    cases made
    by_cases starts : ∃ config, step = .start config
    · obtain ⟨config, rfl⟩ := starts
      exact keeps_start sound waits config
    · have others : ∀ config, step ≠ .start config := fun config same => starts ⟨config, same⟩
      have undialled := Undialled.perform others (fun same => stores (congrArg Move.step same))
        (fun same => drops (congrArg Move.step same)) c.follower
      exact still undialled (fun config same => others config (Move.step.inj same)) nofun nofun
  | notice kind notification =>
    cases made
    exact still (.of_harmless (.notify kind notification c.follower)) nofun nofun nofun
  | connection attempt reply =>
    obtain ⟨start, found, rfl⟩ := Option.map_eq_some_iff.mp made
    have same : start.attempt = attempt := by simpa using List.find?_some found
    have pending := List.mem_of_find?_eq_some found
    exact same ▸ keeps_connection sound pending (waits (List.ne_nil_of_mem pending)) reply
  | call number =>
    obtain ⟨run, _, called⟩ := Option.bind_eq_some_iff.mp made
    split at called
    · contradiction
    · cases called
      exact still (.of_harmless (.callRun c.follower run)) nofun nofun nofun
  | runEnds number reply =>
    obtain ⟨run, found, ended⟩ := Option.bind_eq_some_iff.mp made
    have same : run.number = number := by simpa using List.find?_some found
    split at ended
    · cases ended
      exact same ▸ keeps_runEnds sound (List.mem_of_find?_eq_some found) reply
    · contradiction
  | produce number =>
    have turned : c.follower.rescanTurn produce number = some g := made
    exact still (.of_rescans (Rescans.rescanTurn Rescans.produce turned)) nofun nofun nofun
  | consume number =>
    have turned : c.follower.rescanTurn consume number = some g := made
    exact still (.of_rescans (Rescans.rescanTurn Rescans.consume turned)) nofun nofun nofun

end Stage

inductive ConnectedLast : List Stage → Client → Prop where
  | here {stage : Stage} {earlier : List Stage} {client : Client}
      (connects : stage.Connects client .ok) : ConnectedLast (stage :: earlier) client
  | before {stage : Stage} {earlier : List Stage} {client : Client}
      (others : ∀ other, ¬ stage.Connects other .ok) (goesOn : ¬ stage.FailsServer)
      (last : ConnectedLast earlier client) : ConnectedLast (stage :: earlier) client

namespace Trail

variable {stages : List Stage} {f : Follower}

theorem keeps (trail : Trail stages f)
    (through : ∀ stage ∈ stages,
      stage.move ≠ .step .cacheStore ∧ stage.move ≠ .step .cacheInvalidate) :
    (∀ stage ∈ stages, stage.Keeps) ∧ (f.starts ≠ [] → f.cache = none) := by
  induction trail with
  | @setUp setup f accepted =>
    exact ⟨fun stage inside => absurd inside List.not_mem_nil,
      fun _ => (Scenario.Setup.fresh accepted).cache⟩
  | @move stages f g move before made ih =>
    obtain ⟨earlier, waits⟩ := ih fun stage member => through stage (List.mem_cons_of_mem _ member)
    obtain ⟨stores, drops⟩ := through _ List.mem_cons_self
    obtain ⟨c, sound, rfl⟩ := before.sound
    have keeps := Stage.keeps_move sound waits made stores drops
    exact ⟨List.forall_mem_cons.mpr ⟨keeps, earlier⟩, keeps.waits⟩

theorem cache_iff (trail : Trail stages f)
    (through : ∀ stage ∈ stages,
      stage.move ≠ .step .cacheStore ∧ stage.move ≠ .step .cacheInvalidate) (client : Client) :
    f.cache = some client ↔ ConnectedLast stages client := by
  have keeps := (trail.keeps through).1
  induction trail with
  | @setUp setup f accepted =>
    rw [(Scenario.Setup.fresh accepted).cache]
    exact ⟨nofun, nofun⟩
  | @move stages f g move before made ih =>
    have here := keeps _ List.mem_cons_self
    have earlier := ih (fun stage member => through stage (List.mem_cons_of_mem _ member))
      fun stage member => keeps stage (List.mem_cons_of_mem _ member)
    constructor
    · intro kept
      by_cases connects : ∃ other, Stage.Connects ⟨f, move, g⟩ other .ok
      · obtain ⟨other, connects⟩ := connects
        have same := Option.some.inj ((here.stored other connects).symm.trans kept)
        exact .here (same ▸ connects)
      · have others : ∀ other, ¬ Stage.Connects ⟨f, move, g⟩ other .ok :=
          fun other connected => connects ⟨other, connected⟩
        by_cases fails : Stage.FailsServer ⟨f, move, g⟩
        · have dropped : g.cache = none := here.dropped fails
          rw [kept] at dropped
          contradiction
        · exact .before others fails (earlier.mp ((here.same others fails).symm.trans kept))
    · intro last
      cases last with
      | here connects => exact here.stored client connects
      | before others goesOn last => exact (here.same others goesOn).trans (earlier.mpr last)

/-- The client that is kept is the one that was connected last, if no run of a server failed since; a
start uses it as it is, and a start without one makes a client and connects it once. -/
theorem client_kept (trail : Trail stages f)
    (through : ∀ stage ∈ stages,
      stage.move ≠ .step .cacheStore ∧ stage.move ≠ .step .cacheInvalidate) :
    (∀ client, f.cache = some client ↔ ConnectedLast stages client) ∧
      (f.startBarrier? = none → ∀ address username password certificate,
        f.ServerStart address username password (certificate.getD [])
          ((Follower.startSync (.rpc address username password certificate)).run f)) ∧
      ∀ start ∈ f.starts, f.cache = none ∧ f.Undialled f.abandonStart.1 ∧
        ∀ reply, ∃ result g,
          f.finishStart start reply = g.note (.startEnded (StartOutcome.ofResult result)) ∧
          dials g.history = dials f.history ∧
          f.Replied (f.isCancelled (.start start.attempt)) start.client reply (result, g) := by
  obtain ⟨c, sound, rfl⟩ := trail.sound
  refine ⟨trail.cache_iff through, fun free address username password certificate => ?_, ?_⟩
  · obtain ⟨_, _, vacant, _⟩ := sound.free free
    exact Follower.serverStart_startSync address username password certificate free vacant
  · intro start pending
    have empty := (trail.keeps through).2 (List.ne_nil_of_mem pending)
    obtain ⟨_, _, _, _, vacant, _⟩ := sound.pending pending
    refine ⟨empty, .abandonStart _, fun reply => ?_⟩
    obtain ⟨result, g, came, _, dialled, replied⟩ :=
      Follower.replied_finishStart start reply empty vacant
    exact ⟨result, g, came, dialled, replied⟩

/-- After a run that was cancelled its client is kept, and the next start uses it though it is given
no address. -/
theorem client_kept_reused :
    ∃ stages f, Trail stages f ∧ ConnectedLast stages ⟨1⟩ ∧
      dials ((Follower.startSync (.rpc "" "user" "pass" none)).run f).2.history = dials f.history ∧
      Follower.Uses ⟨1⟩ f ((Follower.startSync (.rpc "" "user" "pass" none)).run f).2 := by
  let first := Course.standard.follower.move?
    (.step (.start (.rpc "127.0.0.1" "user" "pass" none)))
  let f := first.get (by decide +kernel)
  let g := (f.move? (.call 1)).get (by decide +kernel)
  let h := (g.move? (.runEnds 1 (.error .canceled))).get (by decide +kernel)
  have started : Trail _ f := Trail.standard.move (Option.some_get (x := first) _).symm
  have called : Trail _ g := started.move (Option.some_get _).symm
  have ended : Trail _ h := called.move (Option.some_get _).symm
  obtain ⟨kept, starts, _⟩ := client_kept ended (by simp)
  have cached : h.cache = some ⟨1⟩ := by decide +kernel
  have free : h.startBarrier? = none := by decide +kernel
  obtain ⟨undialled, uses, _⟩ := (starts free "" "user" "pass" none).reused ⟨1⟩ cached
  exact ⟨_, h, ended, (kept ⟨1⟩).mp cached, undialled.dials, uses⟩

end Trail

end ChainFollower

import ChainFollower.Proofs.Ending
import ChainFollower.Scenario.Step

/-! What may happen next, with any reply of a connection and of a run, and what each of these moves
does to the sync. -/
namespace ChainFollower

/-- A call or a change from outside, a notification of a backend, or a task that goes on. -/
inductive Move where
  | step (step : Scenario.Step)
  | notice (kind : BackendKind) (notification : Notification)
  /-- The connection that a start waits for has a reply. -/
  | connection (attempt : Nat) (reply : Reply ConnectError)
  /-- The task of a run calls the backend. -/
  | call (number : Nat)
  /-- The backend's run comes back. -/
  | runEnds (number : Nat) (reply : Reply RunError)
  | produce (rescan : Nat)
  | consume (rescan : Nat)

/-- The run that comes back in this move without a panic. -/
def Move.returned? : Move → Option Nat
  | runEnds number .ok => some number
  | runEnds number (.error _) => some number
  | _ => none

def StartOutcome.ofResult : Except Stop Nat → StartOutcome
  | .ok number => .launched number
  | .error stop => .stopped stop

theorem Move.returned_reply (number : Nat) (result : Option RunError) :
    (runEnds number (RunError.reply result)).returned? = some number := by
  cases result <;> rfl

namespace Follower

open Act

def move? (f : Follower) : Move → Option Follower
  | .step step => some (step.perform f).2
  | .notice kind notification => some (f.notify kind notification)
  | .connection attempt reply =>
    (f.starts.find? (fun start => start.attempt == attempt)).map
      (fun start => f.finishStart start reply)
  | .call number =>
    (f.runs.find? (fun run => run.number == number)).bind (fun run =>
      if run.begun then none else some (f.callRun run))
  | .runEnds number reply =>
    (f.runs.find? (fun run => run.number == number)).bind (fun run =>
      if run.begun then some (f.finishRun run reply) else none)
  | .produce number => f.rescanTurn produce number
  | .consume number => f.rescanTurn consume number

/-- A turn of a task is a move, with the reply that the collaborator's script has. -/
theorem move_of_turn {f g : Follower} {turn : Turn} (turned : f.turn? turn = some g) :
    ∃ move, f.move? move = some g := by
  cases turn with
  | start attempt =>
    simp only [turn?, startTurn] at turned
    split at turned
    · contradiction
    · rename_i start found
      obtain ⟨reply, _, rfl⟩ := Option.map_eq_some_iff.mp turned
      exact ⟨.connection attempt reply, by simp only [move?, found, Option.map_some]⟩
  | run number =>
    simp only [turn?, runTurn] at turned
    split at turned
    · contradiction
    · rename_i run found
      split at turned
      · rename_i begun
        obtain ⟨reply, _, rfl⟩ := Option.map_eq_some_iff.mp turned
        exact ⟨.runEnds number reply, by simp only [move?, found, Option.bind_some, begun, if_true]⟩
      · rename_i waiting
        exact ⟨.call number, by simpa [move?, found, waiting] using turned⟩
  | produce number => exact ⟨.produce number, turned⟩
  | consume number => exact ⟨.consume number, turned⟩

end Follower

namespace Scenario.Step

/-- The step neither starts a sync nor gives one up, and leaves links, faults and session alone. -/
def LeavesSync : Step → Prop
  | start _ => False
  | abandonStart => False
  | close => False
  | closeWallet => False
  | notify _ => False
  | fail _ _ => False
  | attach _ => False
  | _ => True

open Follower

def Scans : Step → Prop
  | startRescan => True
  | rescanScript _ => True
  | rescanFeed _ _ => True
  | _ => False

theorem Scans.leavesSync {step : Step} (scans : step.Scans) : step.LeavesSync := by
  cases step with
  | startRescan => trivial
  | rescanScript script => trivial
  | rescanFeed items ending => trivial
  | _ => exact scans.elim

/-- The step leaves the sync, rescans, tokens, listeners and the kept client alone. -/
def SparesTasks : Step → Prop
  | cancelSync => False
  | cancelRescan => False
  | cacheStore => False
  | cacheInvalidate => False
  | shutdown => False
  | addListener _ => False
  | step => step.LeavesSync ∧ ¬ step.Scans

def Opens : Step → Prop
  | create _ _ => True
  | openWallet _ => True
  | close => True
  | closeWallet => True
  | setLoaded _ => True
  | changePublic _ _ => True
  | _ => False

theorem callsOnly_perform {step : Step} (spares : step.SparesTasks) (f : Follower) :
    CallsOnly step.Opens f (step.perform f).2 := by
  cases step with
  | exists? => exact CallsOnly.exists? f
  | create passphrase seed => exact CallsOnly.create passphrase seed f
  | openWallet publicPass => exact CallsOnly.openAll publicPass f
  | setLoaded loaded => exact CallsOnly.opened trivial rfl
  | unlock passphrase => exact CallsOnly.unlock passphrase f
  | changePrivate old new => exact CallsOnly.changePrivatePass old new f
  | changePublic old new => exact CallsOnly.changePublicPass old new f
  | lock => exact CallsOnly.lock f
  | indexAddress =>
    simp only [perform]
    split
    · exact CallsOnly.nextAddress f
    · exact CallsOnly.refl f
  | bestTimestamp => exact Act.keeps_map Int64.toInt CallsOnly.bestTimestamp f
  | endRun reply =>
    simp only [perform, flagOf, releaseRun]
    split
    · exact CallsOnly.refl f
    · exact CallsOnly.same rfl
  | releaseConnect reply =>
    simp only [perform, flagOf, releaseClient]
    split
    · exact CallsOnly.refl f
    · exact CallsOnly.same rfl
  | cancelSync => exact spares.elim
  | cancelRescan => exact spares.elim
  | cacheStore => exact spares.elim
  | cacheInvalidate => exact spares.elim
  | shutdown => exact spares.elim
  | addListener listener => exact spares.elim
  | startRescan => exact absurd trivial spares.2
  | rescanScript script => exact absurd trivial spares.2
  | rescanFeed items ending => exact absurd trivial spares.2
  | start backend => exact spares.1.elim
  | abandonStart => exact spares.1.elim
  | close => exact spares.1.elim
  | closeWallet => exact spares.1.elim
  | notify notification => exact spares.1.elim
  | fail place fault => exact spares.1.elim
  | attach link => exact spares.1.elim
  | _ => exact CallsOnly.same rfl

theorem sameTasksAndClient_perform {step : Step} (spares : step.SparesTasks) (f : Follower) :
    SameTasksAndClient f (step.perform f).2 :=
  (callsOnly_perform spares f).sameTasksAndClient

theorem dialled_storeClient (f : Follower) : Dialled f (storeClient f).1 := by
  unfold storeClient
  have counted : SameTasksAndClient f
      { f with counts := { f.counts with clients := f.counts.clients + 1 } } :=
    SameTasksAndClient.same rfl
  exact (Dialled.spared counted).trans (Dialled.keepClient _ _)

theorem sameTasks_perform {step : Step} (leaves : step.LeavesSync) (unscanned : ¬ step.Scans)
    (f : Follower) : SameTasks f (step.perform f).2 := by
  by_cases spares : step.SparesTasks
  · exact (sameTasksAndClient_perform spares f).sameTasks
  · cases step with
    | cancelSync => exact SameTasks.cancelSync f
    | cancelRescan => exact SameTasks.cancelRescan f
    | cacheStore => exact (dialled_storeClient f).sameTasks
    | cacheInvalidate => exact (Dialled.invalidateCache f).sameTasks
    | shutdown =>
      have logged := SameTasks.log f .shutdownRequested
      exact ⟨{ logged with }, { logged with shutdown := fun _ => rfl }⟩
    | addListener listener => exact SameTasks.of_silent (Told.addListener f listener)
    | _ => exact absurd ⟨leaves, unscanned⟩ spares

theorem sameSync_perform {step : Step} (leaves : step.LeavesSync) (f : Follower) :
    SameSync f (step.perform f).2 := by
  by_cases scans : step.Scans
  · cases step with
    | startRescan => exact (Rescans.startRescan f).sameSync
    | rescanScript script => exact SameSync.of_same rfl rfl
    | rescanFeed items ending =>
      simp only [perform, flagOf, feed]
      split
      · exact SameSync.refl f
      · exact SameSync.of_same rfl rfl
    | _ => exact scans.elim
  · exact (sameTasks_perform leaves scans f).toSameSync

end Scenario.Step

namespace Follower

theorem finishStart_eq (f : Follower) (start : PendingStart) (reply : Reply ConnectError) :
    f.finishStart start reply =
      let rest := f.starts.filter (fun other => other.attempt != start.attempt)
      let resumed := (resumeStart start reply).run { f with starts := rest }
      resumed.2.note (.startEnded (StartOutcome.ofResult resumed.1)) := by
  unfold finishStart
  dsimp only
  split
  · rename_i number g came
    rw [came]
    rfl
  · rename_i stop g came
    rw [came]
    rfl

inductive Moved (f : Follower) : Move → Follower → Prop where
  | stays {move : Move} {g : Follower} (stays : SameSessions f g) (goesOn : move.returned? = none) :
    Moved f move g
  | started (config : BackendConfig) {result : Except Stop Started} {g : Follower}
      (start : StartComesTo config f (result, g)) : Moved f (.step (.start config)) g
  | resumed {start : PendingStart} {rest : List PendingStart} {result : Except Stop Nat}
      {reply : Reply ConnectError} {outcome : StartOutcome} {g : Follower}
      (pending : start ∈ f.starts)
      (others : rest = f.starts.filter (fun other => other.attempt != start.attempt))
      (resume : ResumeComesTo start reply { f with starts := rest } (result, g)) :
    Moved f (.connection start.attempt reply) (g.note (.startEnded outcome))
  | abandoned {start : PendingStart} {rest : List PendingStart}
      (pending : f.starts = start :: rest) :
    Moved f (.step .abandonStart)
      ({ f with starts := rest }.abortStart.note (.startEnded .abandoned))
  | panicked {run : RunLoop} (text : String) (member : run ∈ f.runs) (begun : run.begun = true) :
    Moved f (.runEnds run.number (.panic text))
      ((f.withoutRun run).note (.syncEnded run.number (SyncOutcome.ofPanic text)))
  | returned {run : RunLoop} {g : Follower} (result : Option RunError) (member : run ∈ f.runs)
      (begun : run.begun = true) (ended : RunReturned run f g) :
    Moved f (.runEnds run.number (RunError.reply result)) g

theorem moved_step (f : Follower) (step : Scenario.Step) :
    Moved f (.step step) (step.perform f).2 := by
  by_cases leaves : step.LeavesSync
  · exact .stays (SameSessions.of_sameSync (Scenario.Step.sameSync_perform leaves f)) rfl
  · cases step with
    | start config => exact .started config (comesTo_startSync config f)
    | abandonStart =>
      simp only [Scenario.Step.perform, Scenario.Step.flagOf, Follower.abandonStart]
      split
      · exact .stays (SameSessions.refl f) rfl
      · rename_i pending
        exact .abandoned pending
    | close => exact .stays (SameSessions.close f) rfl
    | closeWallet =>
      have cancelled := (SameSync.cancelQuietly f).trans (SameSync.cancelRescan _)
      exact .stays ((SameSessions.of_sameSync cancelled).trans (SameSessions.close _)) rfl
    | notify notification =>
      simp only [Scenario.Step.perform]
      split
      · exact .stays (SameSessions.refl f) rfl
      · exact .stays (SameSessions.notify _ _ f) rfl
    | fail place fault =>
      refine .stays ?_ rfl
      simp only [Scenario.Step.perform, Scenario.Step.setFault]
      split <;> exact ⟨rfl, rfl, Or.inl rfl, rfl, rfl, rfl, rfl, Without.of_same rfl⟩
    | attach link =>
      exact .stays ⟨rfl, rfl, Or.inl rfl, rfl, rfl, rfl, rfl, Without.of_same rfl⟩ rfl
    | _ => exact absurd trivial leaves

theorem moved_finishStart {f : Follower} {start : PendingStart} (pending : start ∈ f.starts)
    (reply : Reply ConnectError) :
    Moved f (.connection start.attempt reply) (f.finishStart start reply) := by
  rw [finishStart_eq]
  exact .resumed pending rfl (comesTo_resumeStart start reply _)

theorem moved_finishRun {f : Follower} {run : RunLoop} (member : run ∈ f.runs)
    (begun : run.begun = true) (reply : Reply RunError) :
    Moved f (.runEnds run.number reply) (f.finishRun run reply) := by
  cases reply with
  | ok => exact .returned none member begun (runReturned_finishRun f run none)
  | error e => exact .returned (some e) member begun (runReturned_finishRun f run (some e))
  | panic text => exact .panicked text member begun

theorem moved_of_move {f g : Follower} {move : Move} (made : f.move? move = some g) :
    Moved f move g := by
  cases move with
  | step step => exact Option.some.inj made ▸ moved_step f step
  | notice kind notification =>
    cases made
    exact .stays (SameSessions.notify kind notification f) rfl
  | connection attempt reply =>
    obtain ⟨start, found, rfl⟩ := Option.map_eq_some_iff.mp made
    have same : start.attempt = attempt := by simpa using List.find?_some found
    exact same ▸ moved_finishStart (List.mem_of_find?_eq_some found) reply
  | call number =>
    obtain ⟨run, found, called⟩ := Option.bind_eq_some_iff.mp made
    split at called
    · contradiction
    · cases called
      exact .stays (SameSessions.callRun f run) rfl
  | runEnds number reply =>
    obtain ⟨run, found, ended⟩ := Option.bind_eq_some_iff.mp made
    have same : run.number = number := by simpa using List.find?_some found
    split at ended
    · rename_i begun
      cases ended
      exact same ▸ moved_finishRun (List.mem_of_find?_eq_some found) begun reply
    · contradiction
  | produce number =>
    have turned : f.rescanTurn produce number = some g := made
    exact .stays (SameSessions.of_sameSync (Rescans.rescanTurn Rescans.produce turned).sameSync) rfl
  | consume number =>
    have turned : f.rescanTurn consume number = some g := made
    exact .stays (SameSessions.of_sameSync (Rescans.rescanTurn Rescans.consume turned).sameSync) rfl

/-- What a start keeps, and what is not touched when a task is dropped, every move keeps but one in
which a run comes back. -/
structure MoveKeeps (related : Follower → Follower → Prop) : Prop extends StartKeeps related where
  resumed : ∀ f outcome, related f (f.note (.startEnded outcome))
  dropped : ∀ f run outcome, related f ((f.withoutRun run).note (.syncEnded run.number outcome))

theorem Moved.keeps {related : Follower → Follower → Prop} [IsTrans Follower related]
    (keeps : MoveKeeps related) {f g : Follower} {move : Move} (moved : Moved f move g)
    (goesOn : move.returned? = none) : related f g := by
  cases moved with
  | stays stays => exact keeps.stays stays
  | started config start => exact keeps.started start
  | @resumed start rest result reply outcome h pending others resume =>
    have taken : related f h :=
      IsTrans.trans _ _ _ (keeps.waits f rest) (keeps.toStartKeeps.resumed resume)
    exact IsTrans.trans _ _ _ taken (keeps.resumed h outcome)
  | @abandoned start rest pending =>
    have aborted := IsTrans.trans _ _ _ (keeps.waits f rest) (keeps.aborted _)
    exact IsTrans.trans _ _ _ aborted (keeps.resumed _ .abandoned)
  | @panicked run text member begun => exact keeps.dropped f run _
  | returned result => simp [Move.returned_reply] at goesOn

/-- Only a run that comes back lets listeners hear of an end. -/
theorem silent_move {f g : Follower} {move : Move} (made : f.move? move = some g)
    (goesOn : move.returned? = none) : Without Happening.TellsEnd f g := by
  refine (moved_of_move made).keeps { startKeeps_silent with resumed := ?_, dropped := ?_ } goesOn
  · exact fun f _ => Without.note f id
  · exact fun _ _ _ => ⟨[.syncEnded _ _], rfl, by simp [Happening.TellsEnd]⟩

structure Numbered (f g : Follower) : Prop where
  syncs : f.counts.syncs ≤ g.counts.syncs
  runs : ∀ run ∈ g.runs, (∃ old ∈ f.runs, old.number = run.number) ∨ f.counts.syncs < run.number

namespace Numbered

variable {f g h : Follower}

theorem of_launched (runs : g.runs.map RunLoop.launched = f.runs.map RunLoop.launched)
    (syncs : g.counts.syncs = f.counts.syncs) : Numbered f g := by
  refine ⟨Nat.le_of_eq syncs.symm, fun run member => Or.inl ?_⟩
  have inMap : run.launched ∈ f.runs.map RunLoop.launched := runs ▸ List.mem_map_of_mem member
  obtain ⟨old, before, same⟩ := List.mem_map.mp inMap
  exact ⟨old, before, (congrArg RunLoop.number same : old.launched.number = run.launched.number)⟩

theorem of_same (runs : g.runs = f.runs) (syncs : g.counts.syncs = f.counts.syncs) :
    Numbered f g :=
  of_launched (congrArg (List.map RunLoop.launched) runs) syncs

theorem trans (first : Numbered f g) (second : Numbered g h) : Numbered f h := by
  refine ⟨Nat.le_trans first.syncs second.syncs, fun run member => ?_⟩
  rcases second.runs run member with ⟨between, inside, same⟩ | new
  · rcases first.runs between inside with ⟨old, before, same'⟩ | new
    · exact Or.inl ⟨old, before, same'.trans same⟩
    · exact Or.inr (same ▸ new)
  · exact Or.inr (Nat.lt_of_le_of_lt first.syncs new)

instance : IsTrans Follower Numbered := ⟨fun _ _ _ => trans⟩

theorem withoutRun (f : Follower) (run : RunLoop) : Numbered f (f.withoutRun run) :=
  ⟨Nat.le_refl _, fun other inside => Or.inl ⟨other, (List.mem_filter.mp inside).1, rfl⟩⟩

theorem withRun (f : Follower) (attempt : Nat) (backend : Backend) :
    Numbered f (f.withRun attempt backend) := by
  refine ⟨Nat.le_succ _, fun run member => ?_⟩
  rcases List.mem_append.mp member with old | new
  · exact Or.inl ⟨run, old, rfl⟩
  · have number : run.number = f.counts.syncs + 1 := by rw [List.mem_singleton.mp new]
    exact Or.inr (by omega)

theorem keeps : MoveKeeps Numbered where
  stays stays := of_launched stays.runs stays.syncs
  entered _ _ := of_same rfl rfl
  waits _ _ := of_same rfl rfl
  aborted f := of_same (congrArg Standing.runs (abortStart_standing f))
    (congrArg Standing.syncs (abortStart_standing f))
  attached _ _ := of_same rfl rfl
  ran := withRun
  resumed _ _ := of_same rfl rfl
  dropped f run _ := trans (withoutRun f run) (of_same rfl rfl)

end Numbered

theorem numbered_move {f g : Follower} {move : Move} (made : f.move? move = some g) :
    Numbered f g := by
  have moved := moved_of_move made
  by_cases goesOn : move.returned? = none
  · exact moved.keeps Numbered.keeps goesOn
  · cases moved with
    | @returned run g result member begun ended =>
      exact (Numbered.withoutRun f run).trans (Numbered.of_launched ended.runs ended.syncs)
    | stays _ goes => exact absurd goes goesOn
    | _ => exact absurd rfl goesOn

end Follower

end ChainFollower

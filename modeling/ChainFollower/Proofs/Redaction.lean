import ChainFollower.Proofs.Work
import ChainFollower.Scenario.Step

/-! What is left when passwords, passphrases, the bytes of certificates and seeds are blotted out.
Nothing that the log or a diagnostic form shows is blotted out, and what listeners and rescans do is
the same with and without. -/
namespace ChainFollower

/-- Passwords and the bytes of certificates are blotted out, the lengths of these are not. -/
def BackendConfig.redacted : BackendConfig → BackendConfig
  | rpc address username _ certificate =>
    rpc address username "" (certificate.map Passphrase.wiped)
  | config => config

def ServerParams.redacted (params : ServerParams) : ServerParams :=
  { params with password := "", certificate := Passphrase.wiped params.certificate }

def Sight.redacted : Sight → Sight
  | create _ _ _ => create [] [] []
  | openWallet _ => openWallet []
  | unlock _ => unlock []
  | changePrivate _ _ => changePrivate [] []
  | changePublic _ _ => changePublic [] []
  | rpcClient params => rpcClient params.redacted
  | sight => sight

def LogRecord.redacted : LogRecord → LogRecord
  | starting config => starting config.redacted
  | record => record

def Happening.redacted : Happening → Happening
  | saw sight => saw sight.redacted
  | logged record => logged record.redacted
  | happening => happening

def Wallet.redacted (wallet : Wallet) : Wallet :=
  { wallet with privatePass := [], publicPass := [] }

def Follower.redacted (f : Follower) : Follower :=
  { f with wallet := f.wallet.redacted, history := f.history.map Happening.redacted }

namespace BackendConfig

variable (config : BackendConfig)

theorem inspect_redacted : config.redacted.inspect = config.inspect := by
  cases config with
  | spv peers => rfl
  | rpc address username password certificate => cases certificate <;> rfl

theorem inspectLines_redacted : config.redacted.inspectLines = config.inspectLines := by
  cases config with
  | spv peers => cases peers <;> rfl
  | rpc address username password certificate => cases certificate <;> rfl

end BackendConfig

namespace ServerParams

variable (params : ServerParams)

theorem shown_redacted : params.redacted.shown = params.shown := by
  have length : (Passphrase.wiped params.certificate).length = params.certificate.length :=
    List.length_map _
  delta shown redacted
  dsimp only
  rw [length]

theorem inspect_redacted : params.redacted.inspect = params.inspect := by
  delta inspect
  rw [shown_redacted]

theorem inspectLines_redacted : params.redacted.inspectLines = params.inspectLines := by
  delta inspectLines
  rw [shown_redacted]

end ServerParams

def LogRecord.shown (record : LogRecord) : Level × Area × String :=
  (record.level, record.area, record.text)

theorem LogRecord.shown_redacted (record : LogRecord) : record.redacted.shown = record.shown := by
  cases record with
  | starting config =>
    have same : config.redacted.inspect = config.inspect := config.inspect_redacted
    exact congrArg (fun text => (Level.info, Area.session, "Starting " ++ text ++ " sync")) same
  | _ => rfl

namespace Follower

/-- What is no secret is the same of followers that differ in secrets only. -/
theorem clear_eq {α : Type} (shown : Follower → α) (clear : ∀ f, shown f.redacted = shown f)
    {f g : Follower} (same : f.redacted = g.redacted) : shown f = shown g := by
  rw [← clear f, same, clear]

section
variable (f : Follower)

theorem redacted_cancelQuietly : f.cancelQuietly.redacted = f.redacted.cancelQuietly := by
  unfold cancelQuietly
  have same : f.redacted.session.token = f.session.token := rfl
  rw [same]
  cases f.session.token <;> rfl

theorem redacted_cancelSession : f.cancelSession.redacted = f.redacted.cancelSession := by
  unfold cancelSession
  have same : f.redacted.session.token = f.session.token := rfl
  rw [same]
  cases f.session.token <;> rfl

theorem redacted_cancelRescan : f.cancelRescan.redacted = f.redacted.cancelRescan := by
  unfold cancelRescan
  have same : f.redacted.rescanSlot.token = f.rescanSlot.token := rfl
  rw [same]
  cases f.rescanSlot.token <;> rfl

theorem redacted_recruit (position heirs : Nat) :
    (f.recruit position heirs).redacted = f.redacted.recruit position heirs := by
  unfold recruit
  have same : f.redacted.listeners[position]? = f.listeners[position]? := rfl
  rw [same]
  cases f.listeners[position]? <;> rfl

theorem nextAction_redacted (position : Nat) (callback : Callback) :
    f.redacted.nextAction position callback =
      (f.nextAction position callback).map fun found => (found.1, found.2.redacted) := by
  unfold nextAction
  have same : f.redacted.listeners[position]? = f.listeners[position]? := rfl
  rw [same]
  cases f.listeners[position]? with
  | none => rfl
  | some listener =>
    dsimp only
    rw [Option.map_map]
    rfl

end

section
variable {call : Follower → Follower} (calls : ∀ f, (call f).redacted = call f.redacted)
include calls

theorem redacted_react (position : Nat) (callback : Callback) (fuel : Nat) (f : Follower) :
    (react call position callback fuel f).redacted =
      react call position callback fuel f.redacted := by
  -- An action that is not the last one of the callback leaves followers alike to go on with.
  induction fuel generalizing f with
  | zero => rfl
  | succ fuel ih =>
    unfold react
    rw [nextAction_redacted]
    rcases f.nextAction position callback with _ | ⟨action, g⟩
    · rfl
    · cases action with
      | leave => rfl
      | panic => rfl
      | addListener heirs => exact (ih _).trans (by rw [redacted_recruit]; rfl)
      | cancelSync => exact (ih _).trans (by rw [calls]; rfl)
      | cancelRescan => exact (ih _).trans (by rw [redacted_cancelRescan]; rfl)

theorem redacted_tell (event : Event) (f : Follower) (position : Nat) :
    (f.tell call event position).redacted = f.redacted.tell call event position := by
  unfold Follower.tell
  have same : f.redacted.listeners[position]? = f.listeners[position]? := rfl
  rw [same]
  cases f.listeners[position]? with
  | none => rfl
  | some listener =>
    dsimp only
    split
    · rfl
    · exact redacted_react calls position _ _ _

theorem redacted_tellAll (event : Event) (f : Follower) :
    (f.tellAll call event).redacted = f.redacted.tellAll call event :=
  (List.foldl_hom redacted fun f position => (redacted_tell calls event f position).symm).symm

end

theorem redacted_broadcastWithin (depth : Nat) (event : Event) (f : Follower) :
    (broadcastWithin depth event f).redacted = broadcastWithin depth event f.redacted := by
  induction depth generalizing event f with
  | zero => exact redacted_tellAll redacted_cancelSession event f
  | succ depth ih =>
    refine redacted_tellAll (fun g => ?_) event f
    rw [ih, redacted_cancelSession]

/-- What listeners are told and what they do is the same with and without secrets. -/
theorem redacted_broadcast (f : Follower) (event : Event) :
    (f.broadcast event).redacted = f.redacted.broadcast event :=
  redacted_broadcastWithin f.reactionCount event f

theorem redacted_cancelSync (f : Follower) : f.cancelSync.redacted = f.redacted.cancelSync := by
  unfold cancelSync
  rw [redacted_broadcast, redacted_cancelSession]

theorem redacted_abortStart (f : Follower) : f.abortStart.redacted = f.redacted.abortStart := by
  have same := redacted_cancelQuietly f
  unfold abortStart
  rw [← same]
  rfl

theorem redacted_notify (kind : BackendKind) (notification : Notification) (f : Follower) :
    (f.notify kind notification).redacted = f.redacted.notify kind notification := by
  cases notification with
  | peerConnected count => cases kind with
    | spv => exact redacted_broadcast _ _
    | rpc => rfl
  | peerDisconnected count => cases kind with
    | spv => exact redacted_broadcast _ _
    | rpc => rfl
  | synced caughtUp =>
    simp only [notify]
    have same : f.redacted.session.state = f.session.state := rfl
    rw [same]
    cases syncedState? f.session.state caughtUp with
    | none => exact redacted_broadcast f _
    | some state => exact redacted_broadcast _ _
  | rescanProgress height => exact redacted_broadcast f _
  | rescanFinished height => exact redacted_broadcast f _

theorem redacted_callRun (f : Follower) (run : RunLoop) :
    (f.callRun run).redacted = f.redacted.callRun run :=
  (List.foldl_hom redacted fun f notice => (redacted_notify run.backend.kind notice f).symm).symm

theorem redacted_invalidateCache (f : Follower) :
    f.invalidateCache.redacted = f.redacted.invalidateCache := by
  unfold invalidateCache
  have same : f.redacted.cache = f.cache := rfl
  rw [same]
  cases f.cache <;> rfl

theorem redacted_reportEnd (f : Follower) (kind : BackendKind) (result : Option RunError) :
    (f.reportEnd kind result).redacted = f.redacted.reportEnd kind result := by
  rcases result with _ | _ | _ | text
  · rfl
  · exact redacted_broadcast _ _
  · exact redacted_broadcast _ _
  · exact redacted_broadcast _ _

theorem redacted_keepClient (f : Follower) (client : Client) :
    (f.keepClient client).1.redacted = (f.redacted.keepClient client).1 := by
  unfold keepClient
  have same : f.redacted.cache = f.cache := rfl
  rw [same]
  cases f.cache <;> rfl

section
variable (f : Follower) (job : RescanJob)

theorem logProgress_redacted (tracker : Tracker) (force : Bool) :
    f.redacted.logProgress tracker force =
      ((f.logProgress tracker force).1.redacted, (f.logProgress tracker force).2) := by
  unfold logProgress
  cases tracker.isDue force <;> rfl

theorem takeReport_redacted (rest : List Report) (report : Report) :
    f.redacted.takeReport job rest report =
      ((f.takeReport job rest report).1.redacted, (f.takeReport job rest report).2) := by
  cases report with
  | height h =>
    simp only [takeReport]
    rw [← redacted_broadcast, logProgress_redacted]
  | failure e =>
    simp only [takeReport]
    have cancelled : (f.redacted.log (.rescanFailed e)).cancel (.rescan job.attempt) =
      ((f.log (.rescanFailed e)).cancel (.rescan job.attempt)).redacted := rfl
    rw [cancelled, ← redacted_broadcast]
    rfl

theorem closeRescan_redacted :
    f.redacted.closeRescan job = ((f.closeRescan job).1.redacted, (f.closeRescan job).2) := by
  unfold closeRescan
  have cancelled : (f.redacted.log (.rescanSummary job.tracker)).isCancelled (.rescan job.attempt) =
    (f.log (.rescanSummary job.tracker)).isCancelled (.rescan job.attempt) := rfl
  have summary : f.redacted.log (.rescanSummary job.tracker) =
    (f.log (.rescanSummary job.tracker)).redacted := rfl
  dsimp only
  rw [cancelled]
  cases (f.log (.rescanSummary job.tracker)).isCancelled (.rescan job.attempt) with
  | true =>
    simp only [if_true]
    have logged : (f.redacted.log (.rescanSummary job.tracker)).log
          (.rescanCanceled job.tracker.scanned) =
        ((f.log (.rescanSummary job.tracker)).log (.rescanCanceled job.tracker.scanned)).redacted :=
      rfl
    rw [logged, ← redacted_broadcast]
    rfl
  | false =>
    simp only [Bool.false_eq_true, if_false]
    rw [summary, logProgress_redacted]
    dsimp only
    rw [← redacted_broadcast]
    rfl

theorem produce_redacted :
    f.redacted.produce job = (f.produce job).map fun done => (done.1.redacted, done.2) := by
  unfold produce
  have cancelled : f.redacted.isCancelled (.rescan job.attempt) =
    f.isCancelled (.rescan job.attempt) := rfl
  have capacity : f.redacted.channelCapacity = f.channelCapacity := rfl
  rw [capacity]
  dsimp only
  rw [cancelled]
  repeat' split
  all_goals rfl

theorem consume_redacted :
    f.redacted.consume job = (f.consume job).map fun done => (done.1.redacted, done.2) := by
  unfold consume
  split
  · rfl
  · split
    · rename_i report rest _
      rw [takeReport_redacted]
      rfl
    · split
      · rw [closeRescan_redacted]
        rfl
      · rfl

theorem rescanTurn_redacted {step : Follower → RescanJob → Option (Follower × RescanJob)}
    (steps : ∀ f job, step f.redacted job = (step f job).map fun done => (done.1.redacted, done.2))
    (number : Nat) :
    f.redacted.rescanTurn step number = (f.rescanTurn step number).map redacted := by
  unfold rescanTurn
  have same : f.redacted.rescans = f.rescans := rfl
  rw [same]
  cases f.rescans.find? (fun job => job.number == number) with
  | none => rfl
  | some job =>
    dsimp only
    rw [steps]
    rcases step f job with _ | ⟨g, after⟩
    · rfl
    · simp only [Option.map_some]
      split <;> rfl

theorem startRescan_redacted :
    f.redacted.startRescan = (f.startRescan.1.redacted, f.startRescan.2) := by
  unfold startRescan
  have link : f.redacted.rescanLink = f.rescanLink := rfl
  rw [link]
  cases f.rescanLink with
  | error e => rfl
  | ok link =>
    have capacity (g : Follower) (config : g.config = f.config) :
        ((g.occupyRescan (g.counts.rescanAttempts + 1)).log
          (.rescanStarting link.name)).channelCapacity = f.channelCapacity := by
      unfold channelCapacity
      rw [← config]
      rfl
    dsimp only
    rw [capacity f rfl, capacity f.redacted rfl]
    by_cases full : f.channelCapacity > maxCapacity
    · simp only [if_pos full]
      rfl
    · simp only [if_neg full]
      rfl

end

end Follower

end ChainFollower

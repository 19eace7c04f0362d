import ChainFollower.Follower.Opening
import ChainFollower.Follower.Rescan
import ChainFollower.Follower.Run

/-!
The tasks that go on between calls. A turn takes one task one step further, if it need not wait;
any order of turns is a run. Settling takes turns until every task waits: the tasks stand in a queue
in the order in which they became able to go on, and the first of them goes as far as it can. Starts
that wait for a connection go on when the queue is empty.
-/

namespace ChainFollower

/-- The task whose turn it is; the tasks of a kind are told apart by number. -/
inductive Turn where
  | start (attempt : Nat)
  | run (number : Nat)
  | produce (rescan : Nat)
  | consume (rescan : Nat)
  deriving DecidableEq, Repr

namespace Follower

def finishStart (f : Follower) (start : PendingStart) (reply : Reply ConnectError) : Follower :=
  let rest := f.starts.filter (fun other => other.attempt != start.attempt)
  match (resumeStart start reply).run { f with starts := rest } with
  | (.ok number, f) => f.note (.startEnded (.launched number))
  | (.error stop, f) => f.note (.startEnded (.stopped stop))

def startTurn (f : Follower) (attempt : Nat) : Option Follower :=
  match f.starts.find? (fun start => start.attempt == attempt) with
  | none => none
  | some start => (f.connectReply? start.client attempt).map (f.finishStart start)

def finishRun (f : Follower) (run : RunLoop) (reply : Reply RunError) : Follower :=
  let rest := f.runs.filter (fun other => other.number != run.number)
  match (endRun run reply).run { f with runs := rest } with
  | (.ok outcome, f) => f.note (.syncEnded run.number outcome)
  | (.error (.panicked text), f) => f.note (.syncEnded run.number (SyncOutcome.ofPanic text))
  | (.error (.failed e), f) => f.note (.syncEnded run.number (.errored .unclassified e.message))

def callRun (f : Follower) (run : RunLoop) : Follower :=
  let begun := f.runs.map (fun other =>
    if other.number = run.number then { other with begun := true } else other)
  { f with runs := begun }.beginRun run.backend

def runTurn (f : Follower) (number : Nat) : Option Follower :=
  match f.runs.find? (fun run => run.number == number) with
  | none => none
  | some run =>
    if run.begun then
      (f.runReply? run.backend.syncer run.attempt).map (finishRun f run)
    else some (f.callRun run)

/-- Takes one side of a rescan one step further. A rescan is dropped when both sides have ended. -/
def rescanTurn (step : Follower → RescanJob → Option (Follower × RescanJob)) (f : Follower)
    (number : Nat) : Option Follower :=
  match f.rescans.find? (fun job => job.number == number) with
  | none => none
  | some job =>
    match step f job with
    | none => none
    | some (f, job) =>
      if job.producer = .ended ∧ !job.reading then
        some { f with rescans := f.rescans.filter (fun other => other.number != number) }
      else
        some { f with rescans := f.rescans.map (fun other =>
          if other.number = number then job else other) }

/-- Takes the task one step further; nothing if it has to wait or does not exist. -/
def turn? (f : Follower) : Turn → Option Follower
  | .start attempt => f.startTurn attempt
  | .run number => f.runTurn number
  | .produce number => f.rescanTurn produce number
  | .consume number => f.rescanTurn consume number

/-- The tasks that there are without their callers. Where one step lets several go on, they queue in
this order: taking a report out makes room before listeners hear of it, so the wallet's side of a
rescan comes first. -/
def tasks (f : Follower) : List Turn :=
  f.rescans.map (fun job => .produce job.number) ++ f.runs.map (fun run => .run run.number) ++
    f.rescans.map (fun job => .consume job.number)

/-- The starts that can go on. Their callers wait for them, and look again when no task is left. -/
def startsAble (f : Follower) : List Turn :=
  (f.starts.map (fun start => Turn.start start.attempt)).filter (fun turn => (f.turn? turn).isSome)

/-- The uses of a channel after which a task gives way to the others, though it could go on. -/
def burst : Nat := 128

/-- Whether the task's next step is a use of its channel. -/
def usesChannel (f : Follower) : Turn → Bool
  | .produce number =>
    f.rescans.any (fun job =>
      match job.producer with
      | .scanning _ (some _) => job.number == number
      | _ => false)
  | .consume _ => true
  | _ => false

/-- How many reports the items stand for, at most. -/
def itemCount : List RescanItem → Nat
  | [] => 0
  | .range first last :: rest => (last.toInt - first.toInt + 1).toNat + itemCount rest
  | _ :: rest => 1 + itemCount rest

def jobTurns (f : Follower) (job : RescanJob) : Nat :=
  let items :=
    match job.producer with
    | .ready => itemCount f.wallet.rescan.items
    | .scanning script _ => itemCount script.items
    | .ended => 0
  3 * (items + job.channel.length) + 8

/-- More turns than all tasks can take before they wait: a start takes one and leaves a run of two,
and a report is taken up, sent and received. -/
def turnBound (f : Follower) : Nat :=
  4 * f.starts.length + 3 * f.runs.length + f.rescans.foldr (fun job n => f.jobTurns job + n) 0 + 1

structure Agenda where
  follower : Follower
  /-- The tasks that can go on, the next one first. -/
  queue : List Turn
  /-- The tasks that gave way, the last one first. Their turn comes when the queue is empty. -/
  resting : List Turn

namespace Agenda

/-- Takes note of a step of the task `turn`: other tasks that it lets go on join the queue. -/
def after (agenda : Agenda) (turn : Turn) (f : Follower) : Agenda :=
  let joins (other : Turn) : Bool :=
    other != turn && !agenda.queue.contains other && !agenda.resting.contains other &&
      (f.turn? other).isSome
  { agenda with follower := f, queue := agenda.queue ++ f.tasks.filter joins }

/-- Takes a task further until it waits, or until it has used its channel `left` times and would use
it again. -/
def exhaust (turn : Turn) : Nat → Nat → Agenda → Agenda
  | 0, _, agenda => agenda
  | fuel + 1, left, agenda =>
    let use := agenda.follower.usesChannel turn
    if use && left == 0 then { agenda with resting := turn :: agenda.resting }
    else
      match agenda.follower.turn? turn with
      | none => agenda
      | some f => exhaust turn fuel (if use then left - 1 else left) (agenda.after turn f)

/-- Takes the tasks further until all of them wait. No task takes more than `steps` steps. -/
def work (steps : Nat) : Nat → Agenda → Agenda
  | 0, agenda => agenda
  | fuel + 1, agenda =>
    match agenda.queue, agenda.follower.startsAble, agenda.resting with
    | turn :: rest, _, _ => work steps fuel (exhaust turn steps burst { agenda with queue := rest })
    | [], turn :: _, _ => work steps fuel (exhaust turn steps burst agenda)
    | [], [], [] => agenda
    | [], [], resting => work steps fuel { agenda with queue := resting, resting := [] }

end Agenda

/-- Lets all tasks go on until each of them waits. A step lets three others go on at most, and makes
its own task give way at most once, so eight goes for each step are enough. -/
def settle (f : Follower) : Follower :=
  let able := f.tasks.filter (fun turn => (f.turn? turn).isSome)
  (Agenda.work f.turnBound (8 * f.turnBound) ⟨f, able, []⟩).follower

end Follower

end ChainFollower

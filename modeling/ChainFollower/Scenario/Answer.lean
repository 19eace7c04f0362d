import ChainFollower.Scenario.Step

/-!
What is seen of a scenario, step by step.
-/

namespace ChainFollower.Scenario

/-- A step's result, what happened until all tasks waited again, oldest first, and the follower
then. -/
structure Answer where
  step : Step
  result : Result
  happenings : List Happening
  follower : Follower

namespace Answer

/-- What listener or collaborator saw, and whether it was a listener that heard of a rescan. -/
def traceEntry? : Happening → Option (Bool × String)
  | .saw sight => some (false, sight.describe)
  | .heard listener event =>
    some (event.callback = .rescan, Listener.name listener ++ " " ++ event.describe)
  | _ => none

/-- What collaborators and listeners saw. Where sync and rescan end independently, what listeners
heard of the rescan stands last. -/
def trace (answer : Answer) : List String :=
  let entries := answer.happenings.filterMap traceEntry?
  if answer.step.endsBoth then
    (entries.filter (fun entry => !entry.1) ++ entries.filter (fun entry => entry.1)).map (·.2)
  else entries.map (·.2)

def logs (answer : Answer) : List String :=
  answer.happenings.filterMap (fun happening =>
    match happening with
    | .logged record => some record.line
    | _ => none)

/-- Whether those who watch the session's state were notified. -/
def changed (answer : Answer) : Bool :=
  answer.happenings.any (fun happening =>
    match happening with
    | .stateSet _ => true
    | _ => false)

def startsEnded (answer : Answer) : List StartOutcome :=
  answer.happenings.filterMap (fun happening =>
    match happening with
    | .startEnded outcome => some outcome
    | _ => none)

def syncsEnded (answer : Answer) : List (Nat × SyncOutcome) :=
  (answer.happenings.filterMap (fun happening =>
    match happening with
    | .syncEnded number outcome => some (number, outcome)
    | _ => none)).mergeSort (fun a b => a.1 ≤ b.1)

def rescansEnded (answer : Answer) : List (Nat × RescanOutcome) :=
  (answer.happenings.filterMap (fun happening =>
    match happening with
    | .rescanEnded number outcome => some (number, outcome)
    | _ => none)).mergeSort (fun a b => a.1 ≤ b.1)

end Answer

def take (f : Follower) (step : Step) : Answer :=
  let performed := step.perform { f with history := [] }
  let settled := performed.2.settle
  ⟨step, performed.1, settled.history.reverse,
    { settled with history := settled.history ++ f.history }⟩

def run : Follower → List Step → List Answer
  | _, [] => []
  | f, step :: rest =>
    let answer := take f step
    answer :: run answer.follower rest

end ChainFollower.Scenario

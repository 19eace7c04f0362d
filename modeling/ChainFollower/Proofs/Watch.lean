import ChainFollower.Proofs.Accounted
import ChainFollower.Proofs.Stream

/-! A rescan that is watched from its start on: what its channel got, and what a listener heard while
its two sides went on. -/
namespace ChainFollower

open Report

namespace Follower

def rescan? (f : Follower) (number : Nat) : Option RescanJob :=
  f.rescans.find? (fun job => job.number == number)

def channelOf (f : Follower) (number : Nat) : List Report :=
  ((f.rescan? number).map RescanJob.channel).getD []

def toldSince (position : Nat) (f g : Follower) : List Event :=
  let before := (toldTo position f.history).length
  let told := toldTo position g.history
  (told.take (told.length - before)).reverse

theorem toldSince_tells {f g : Follower} {event : Event} {position : Nat} (tells : Tells event f g)
    (hears : f.hears position = true) : toldSince position f g = [event] := by
  simp [toldSince, tells position hears]

theorem toldSince_same {f g : Follower} {position : Nat}
    (same : toldTo position g.history = toldTo position f.history) :
    toldSince position f g = [] := by
  simp [toldSince, same]

theorem Accounted.rescan?_eq {f : Follower} (accounted : f.Accounted) {job : RescanJob}
    (member : job ∈ f.rescans) : f.rescan? job.number = some job := by
  cases found : f.rescan? job.number with
  | none =>
    have apart := List.find?_eq_none.mp found job member
    simp at apart
  | some other =>
    have inside := List.mem_of_find?_eq_some found
    have same : other.number = job.number := by simpa using List.find?_some found
    rw [eq_of_number accounted.jobs.numbers member inside same]

theorem Accounted.channelOf_eq {f : Follower} (accounted : f.Accounted) {job : RescanJob}
    (member : job ∈ f.rescans) : f.channelOf job.number = job.channel := by
  simp [channelOf, accounted.rescan?_eq member]

theorem Accounted.rescanTurn_eq {f e : Follower} {job after : RescanJob}
    {step : Follower → RescanJob → Option (Follower × RescanJob)} (accounted : f.Accounted)
    (member : job ∈ f.rescans) (stepped : step f job = some (e, after)) :
    f.rescanTurn step job.number =
      some { e with rescans := replaced e.rescans job.number after } := by
  have found : f.rescans.find? (fun other => other.number == job.number) = some job :=
    accounted.rescan?_eq member
  simp only [rescanTurn, found, stepped]
  unfold replaced
  split <;> rfl

end Follower

def Move.Of (number : Nat) : Move → Prop
  | produce rescan => rescan = number
  | consume rescan => rescan = number
  | _ => False

theorem Move.own_cases (move : Move) (number : Nat) :
    move = .produce number ∨ move = .consume number ∨ ¬ move.Of number := by
  by_cases own : move.Of number
  · cases move with
    | produce rescan => exact Or.inl (congrArg Move.produce own)
    | consume rescan => exact Or.inr (Or.inl (congrArg Move.consume own))
    | _ => exact own.elim
  · exact Or.inr (Or.inr own)

def Move.Supplies : Move → Prop
  | step (.rescanScript _) => True
  | step (.rescanFeed _ _) => True
  | _ => False

namespace Course

def ready (script : RescanScript) : Course :=
  let linked := standard.next (.step (.attach (some (.foreign "node"))))
    (standard.follower.setLink (some (.foreign "node")))
  linked.next (.step (.rescanScript script))
    { linked.follower with wallet := { linked.follower.wallet with rescan := script } }

theorem ready_reached (script : RescanScript) : (ready script).Reached := by
  have linked : Ran (fun _ _ _ => True) standard _ :=
    .move .start (rfl : standard.follower.move? (.step (.attach (some (.foreign "node")))) = some _)
      trivial
  have scripted : Ran (fun _ _ _ => True) standard _ :=
    .move linked (rfl : Follower.move? _ (.step (.rescanScript script)) = some _) trivial
  exact ⟨standard, standard_initial, scripted⟩

end Course

structure Watch where
  follower : Follower
  /-- What the wallet's side got into the channel, first to last. -/
  sent : List Report
  /-- What the listener heard in the steps of the rescan, first to last. -/
  heard : List Event
  /-- The reader found the rescan cancelled when it took its last step. -/
  cancelled : Bool

namespace Watch

def next (number position : Nat) (w : Watch) (move : Move) (g : Follower) : Watch :=
  let heard := w.heard ++ Follower.toldSince position w.follower g
  match move with
  | .produce rescan =>
    if rescan = number then
      { w with
        follower := g
        sent := w.sent ++ (g.channelOf number).drop (w.follower.channelOf number).length
        heard := heard }
    else { w with follower := g }
  | .consume rescan =>
    if rescan = number then
      { w with
        follower := g
        heard := heard
        cancelled := (w.follower.rescan? number).any (fun job =>
          w.follower.isCancelled (.rescan job.attempt)) }
    else { w with follower := g }
  | _ => { w with follower := g }

inductive Ran (allowed : Move → Prop) (number position : Nat) (first : Watch) : Watch → Prop where
  | start : Ran allowed number position first first
  | move {w : Watch} {move : Move} {g : Follower} (before : Ran allowed number position first w)
      (may : allowed move) (made : w.follower.move? move = some g) :
    Ran allowed number position first (w.next number position move g)

/-- A rescan has just been started where any moves lead, and a listener is registered. -/
structure Begins (c : Course) (number position : Nat) (w : Watch) : Prop where
  reached : c.Reached
  started : c.follower.startRescan = (w.follower, .started number)
  hears : c.follower.hears position = true
  fresh : w = ⟨w.follower, [], [], false⟩

def Over (number : Nat) (w : Watch) : Prop :=
  ∀ job ∈ w.follower.rescans, job.number = number → job.reading = false

variable {number position : Nat} {w : Watch} {move : Move} {g : Follower}

@[simp] theorem next_follower : (w.next number position move g).follower = g := by
  unfold next
  cases move <;> dsimp only <;> split <;> rfl

theorem next_other (other : ¬ move.Of number) :
    w.next number position move g = { w with follower := g } := by
  cases move with
  | produce rescan => exact if_neg other
  | consume rescan => exact if_neg other
  | _ => rfl

theorem Ran.trans {allowed : Move → Prop} {first v : Watch}
    (before : Ran allowed number position first w) (after : Ran allowed number position w v) :
    Ran allowed number position first v := by
  induction after with
  | start => exact before
  | move _ may made ih => exact .move ih may made

def after? (number position : Nat) : Watch → List Move → Option Watch
  | w, [] => some w
  | w, move :: rest =>
    (w.follower.move? move).bind (fun g => after? number position (w.next number position move g) rest)

theorem Ran.of_after {allowed : Move → Prop} {moves : List Move} {v : Watch}
    (may : ∀ move ∈ moves, allowed move) (made : after? number position w moves = some v) :
    Ran allowed number position w v := by
  induction moves generalizing w with
  | nil =>
    cases made
    exact .start
  | cons move rest ih =>
    obtain ⟨g, first, others⟩ := Option.bind_eq_some_iff.mp made
    have taken : Ran allowed number position w (w.next number position move g) :=
      .move .start (may move List.mem_cons_self) first
    exact taken.trans (ih (fun other inside => may other (List.mem_cons_of_mem _ inside)) others)

def began (script : RescanScript) : Watch :=
  ⟨(Course.ready script).follower.startRescan.1, [], [], false⟩

theorem began_begins (script : RescanScript) : (began script).Begins (Course.ready script) 1 0 :=
  ⟨Course.ready_reached script, rfl, rfl, rfl⟩

end Watch

namespace Follower

variable {f g : Follower} {number : Nat} {move : Move}

structure Spares (number : Nat) (move : Move) (f g : Follower) : Prop where
  outcomes : rescanOutcomes number g.history = rescanOutcomes number f.history
  before : ∀ job ∈ g.rescans, job.number = number → ∃ old ∈ f.rescans,
    old.number = number ∧ old.reading = job.reading ∧
      (old.producer = .ended → job.producer = .ended)
  after : ∀ job ∈ f.rescans, job.number = number → ∃ producer,
    { job with producer := producer } ∈ g.rescans ∧ (¬ move.Supplies → producer = job.producer)

theorem Spares.of_same (outcomes : rescanOutcomes number g.history = rescanOutcomes number f.history)
    (rescans : ∀ job, job.number = number → (job ∈ g.rescans ↔ job ∈ f.rescans)) :
    Spares number move f g where
  outcomes := outcomes
  before job member named := ⟨job, (rescans job named).mp member, named, rfl, id⟩
  after job member named := ⟨job.producer, (rescans job named).mpr member, fun _ => rfl⟩

theorem mem_replaced_iff {jobs : List RescanJob} {job after other : RescanJob}
    (apart : job.number ≠ number) (same : after.number = job.number) (named : other.number = number) :
    other ∈ replaced jobs job.number after ↔ other ∈ jobs := by
  have elsewhere : other.number ≠ job.number := fun here => apart (here.symm.trans named)
  constructor
  · intro inside
    rcases mem_replaced inside with ⟨before, _⟩ | rfl
    · exact before
    · exact absurd same elsewhere
  · intro before
    exact mem_replaced_of_ne before elsewhere

theorem RescanMoved.spares (moved : RescanMoved f move g) (given : number ≤ f.counts.rescans)
    (other : ¬ move.Of number) : Spares number move f g := by
  cases moved with
  | spared _ unscanned =>
    exact .of_same (unscanned.outcomes number) fun job _ => by rw [unscanned.rescans]
  | called call =>
    cases call with
    | barred bars => exact .of_same rfl fun _ _ => Iff.rfl
    | unmade free text => exact .of_same rfl fun _ _ => Iff.rfl
    | started free =>
      refine .of_same rfl fun job named => ⟨fun inside => ?_, List.mem_append_left _⟩
      rcases List.mem_append.mp inside with before | new
      · exact before
      · have late : job.number = f.counts.rescans + 1 := by
          rw [List.mem_singleton.mp new]
        omega
  | fed items ending change same =>
    refine ⟨rfl, fun job inside named => ?_, fun job inside named => ?_⟩
    · obtain ⟨old, before, rfl⟩ := List.mem_map.mp inside
      obtain ⟨producer, changed, ended⟩ := same old
      rw [changed] at named ⊢
      exact ⟨old, before, named, rfl, ended⟩
    · obtain ⟨producer, changed, _⟩ := same job
      exact ⟨producer, List.mem_map.mpr ⟨job, inside, changed⟩, fun none => absurd trivial none⟩
  | scripted script => exact .of_same rfl fun _ _ => Iff.rfl
  | @produced job after e member stepped =>
    obtain ⟨untold, _, produces⟩ := produces_produce stepped
    have same : after.number = job.number := by cases produces <;> rfl
    refine .of_same (untold.outcomes number) fun one named => ?_
    rw [← untold.rescans]
    exact mem_replaced_iff other same named
  | @consumed job after e member reading consumes =>
    cases consumes with
    | took channel scanned still tells =>
      refine .of_same (still.outcomes number) fun one named => ?_
      rw [← still.rescans]
      exact mem_replaced_iff other rfl named
    | @ended outcome event tracker told closes still tells =>
      have elsewhere : job.number ≠ number := other
      have none : rescanOutcomes number [.rescanEnded job.number outcome] = [] := by
        simp [rescanOutcomes, elsewhere]
      have outcomes : rescanOutcomes number ([.rescanEnded job.number outcome] ++ told.history) =
          rescanOutcomes number f.history := by
        rw [rescanOutcomes_append, none, List.nil_append, still.outcomes]
      refine .of_same outcomes fun one named => ?_
      rw [← still.rescans]
      exact mem_replaced_iff other rfl named

structure Onward (f g : Follower) : Prop where
  hears : ∀ {position}, f.hears position = true → g.hears position = true
  count : f.counts.rescans ≤ g.counts.rescans
  cancelled : ∀ {token}, f.isCancelled token = true → g.isCancelled token = true

theorem SameScans.onward (unscanned : SameScans f g) : Onward f g :=
  ⟨unscanned.hears, Nat.le_of_eq unscanned.count.symm, unscanned.isCancelled⟩

theorem RescanMoved.onward (moved : RescanMoved f move g) : Onward f g := by
  cases moved with
  | spared _ unscanned => exact unscanned.onward
  | called call =>
    cases call with
    | barred bars => exact ⟨id, Nat.le_refl _, id⟩
    | unmade free text => exact ⟨id, Nat.le_refl _, id⟩
    | started free => exact ⟨id, Nat.le_succ _, id⟩
  | fed items ending change same => exact ⟨id, Nat.le_refl _, id⟩
  | scripted script => exact ⟨id, Nat.le_refl _, id⟩
  | produced member stepped => exact { (produces_produce stepped).1.onward with }
  | consumed member reading consumes =>
    cases consumes with
    | took channel scanned still tells => exact { still.onward with }
    | ended closes still tells => exact { still.onward with }

theorem produced_of_move (accounted : f.Accounted) (made : f.move? (.produce number) = some g) :
    ∃ job ∈ f.rescans, job.number = number ∧ ∃ e after, f.produce job = some (e, after) ∧
      g = { e with rescans := replaced e.rescans number after } := by
  cases accounted.rescanMoved made with
  | spared other => exact absurd trivial other
  | produced member stepped => exact ⟨_, member, rfl, _, _, stepped, rfl⟩

theorem consumed_of_move (accounted : f.Accounted) (made : f.move? (.consume number) = some g) :
    ∃ job ∈ f.rescans, job.number = number ∧ job.reading = true ∧ ∃ e after,
      Consumes f job e after ∧ g = { e with rescans := replaced e.rescans number after } := by
  cases accounted.rescanMoved made with
  | spared other => exact absurd trivial other
  | consumed member reading consumes => exact ⟨_, member, rfl, reading, _, _, consumes, rfl⟩

/-- What ends a reader is what its channel and its token say. -/
theorem Closes.eq {job : RescanJob} {outcome : RescanOutcome} {event : Event}
    (closes : Closes f job outcome event) {sent : List Report} {taken : List Height}
    (all : sent = taken.map .height ++ job.channel) (scanned : job.tracker.scanned = farthest taken) :
    heights sent = taken ∧ event = lastEvent sent (f.isCancelled (.rescan job.attempt)) ∧
      outcome = Report.outcome sent (f.isCancelled (.rescan job.attempt)) := by
  cases closes with
  | failed channel => simp [all, channel, heights, failure?, lastEvent, Report.outcome, scanned]
  | canceled channel ended cancelled =>
    simp [all, channel, lastEvent, Report.outcome, scanned, cancelled]
  | finished channel ended goesOn =>
    simp [all, channel, lastEvent, Report.outcome, scanned, goesOn]

end Follower

end ChainFollower

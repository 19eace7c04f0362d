import ChainFollower.Proofs.Peers
import ChainFollower.Proofs.Trail
import Mathlib.Data.List.Nodup

/-! What listeners are told of peers, run by run. Whether a backend reports peers is decided twice:
by the configuration of its start for all that it says, and by the backend itself at its launch.
Over any course of moves the two agree, so that each run tells of peers as its kind does. -/
namespace ChainFollower

open Follower

/-- A stage, and the run to which what a backend says in it belongs, if there is one. -/
structure Scene extends Stage where
  speaker : Option Nat

namespace Scene

def launched (scene : Scene) : List RunLoop :=
  launchedSince scene.before.counts.syncs scene.after

def startOf? (scene : Scene) : Option (Nat × BackendKind) :=
  scene.before.startOf? scene.move

def told (scene : Scene) : List (Option Nat × Event) :=
  (scene.before.reported scene.move).map (fun event => (scene.speaker, event)) ++
    scene.launched.flatMap fun run =>
      run.backend.announcement.map fun event => (some run.number, event)

def saidBy (number : Nat) (scene : Scene) : List Notification :=
  if scene.speaker = some number then ((scene.before.speech? scene.move).map Prod.snd).getD []
  else []

end Scene

def launches (scenes : List Scene) : List RunLoop :=
  scenes.flatMap Scene.launched

def entries (scenes : List Scene) : List (Nat × BackendKind) :=
  scenes.filterMap Scene.startOf?

def told (scenes : List Scene) : List (Option Nat × Event) :=
  scenes.reverse.flatMap Scene.told

def ofRun (number : Nat) (events : List (Option Nat × Event)) : List Event :=
  (events.filter fun event => event.1 = some number).map Prod.snd

def saidBy (number : Nat) (scenes : List Scene) : List Notification :=
  scenes.reverse.flatMap (Scene.saidBy number)

def Move.called? : Move → Option Nat
  | .call number => some number
  | _ => none

/-- The speaker of a scene is known. A run that is called speaks itself; what else speaks for a run
that was launched before is of the kind that the start of this run was configured with. -/
def Known (past : List Scene) (scene : Scene) : Prop :=
  match scene.move.called? with
  | some number => scene.speaker = some number
  | none => ∀ number ∈ scene.speaker, ∃ run ∈ launches past, run.number = number ∧
      ∃ entry ∈ entries past, entry.1 = run.attempt ∧
        (scene.before.speech? scene.move).map Prod.fst = some entry.2

instance (past : List Scene) (scene : Scene) : Decidable (Known past scene) :=
  match called : scene.move.called? with
  | some number => decidable_of_iff (scene.speaker = some number) (by rw [Known, called])
  | none => decidable_of_iff (∀ number ∈ scene.speaker, ∃ run ∈ launches past,
      run.number = number ∧ ∃ entry ∈ entries past, entry.1 = run.attempt ∧
        (scene.before.speech? scene.move).map Prod.fst = some entry.2) (by rw [Known, called])

inductive Plays (past : List Scene) (c : Course) : List Scene → Course → Prop where
  | start : Plays past c [] c
  | move {later : List Scene} {d : Course} {move : Move} {g : Follower} {speaker : Option Nat}
      (before : Plays past c later d) (made : d.follower.move? move = some g)
      (known : Known (later ++ past) ⟨⟨d.follower, move, g⟩, speaker⟩) :
    Plays past c (⟨⟨d.follower, move, g⟩, speaker⟩ :: later) (d.next move g)

structure Ledger (past : List Scene) (c : Course) : Prop where
  sound : c.Sound
  numbers : ∀ run ∈ launches past, run.number ≤ c.follower.counts.syncs
  distinct : ((launches past).map RunLoop.number).Nodup
  attempts : ∀ entry ∈ entries past, entry.1 ≤ c.follower.counts.startAttempts
  single : ((entries past).map Prod.fst).Nodup
  pending : ∀ start ∈ c.follower.starts, (start.attempt, .rpc) ∈ entries past
  agree : ∀ run ∈ launches past, (run.attempt, run.backend.kind) ∈ entries past
  attached : ∀ run ∈ c.attached, run ∈ launches past

theorem entries_cons (scene : Scene) (past : List Scene) :
    entries (scene :: past) = scene.startOf?.toList ++ entries past := by
  unfold entries
  rw [List.filterMap_cons]
  cases scene.startOf? <;> rfl

theorem Follower.Books.attempts {f g : Follower} {entry : Option (Nat × BackendKind)}
    {ran : List RunLoop} (books : Books f entry ran g) :
    f.counts.startAttempts ≤ g.counts.startAttempts := by
  rcases books.entry with ⟨_, same, _⟩ | ⟨_, _, more, _⟩
  · exact Nat.le_of_eq same.symm
  · exact more ▸ Nat.le_succ _

namespace Ledger

variable {past : List Scene} {c : Course} {move : Move} {g : Follower}

theorem of_initial (initial : c.Initial) : Ledger [] c where
  sound := initial.sound
  numbers := by simp [launches]
  distinct := by simp [launches]
  attempts := by simp [entries]
  single := by simp [entries]
  pending := by simp [initial.fresh.starts]
  agree := by simp [launches]
  attached := by simp [initial.2]

section
variable (ledger : Ledger past c) {entry : Option (Nat × BackendKind)} {ran : List RunLoop}
  (books : Books c.follower entry ran g)
include ledger books

theorem numbers_next (grown : c.follower.counts.syncs ≤ g.counts.syncs) :
    (∀ run ∈ ran ++ launches past, run.number ≤ g.counts.syncs) ∧
      ((ran ++ launches past).map RunLoop.number).Nodup := by
  have old (run : RunLoop) (member : run ∈ launches past) : run.number ≤ g.counts.syncs :=
    Nat.le_trans (ledger.numbers run member) grown
  rcases books.ran with rfl | ⟨run, rfl, number, fits, _⟩
  · exact ⟨old, ledger.distinct⟩
  · refine ⟨List.forall_mem_cons.mpr ⟨fits, old⟩, List.nodup_cons.mpr ⟨?_, ledger.distinct⟩⟩
    intro among
    obtain ⟨other, member, same⟩ := List.mem_map.mp among
    have := ledger.numbers other member
    omega

theorem entries_next : (∀ other ∈ entry.toList ++ entries past, other.1 ≤ g.counts.startAttempts) ∧
    ((entry.toList ++ entries past).map Prod.fst).Nodup := by
  have old (other : Nat × BackendKind) (member : other ∈ entries past) :
      other.1 ≤ g.counts.startAttempts :=
    Nat.le_trans (ledger.attempts other member) books.attempts
  rcases books.entry with ⟨rfl, _⟩ | ⟨kind, rfl, counted, _⟩
  · exact ⟨old, ledger.single⟩
  · refine ⟨List.forall_mem_cons.mpr ⟨Nat.le_of_eq counted.symm, old⟩,
      List.nodup_cons.mpr ⟨?_, ledger.single⟩⟩
    intro among
    obtain ⟨other, member, same⟩ := List.mem_map.mp among
    have := ledger.attempts other member
    omega

theorem agree_next : (∀ start ∈ g.starts, (start.attempt, .rpc) ∈ entry.toList ++ entries past) ∧
    ∀ run ∈ ran ++ launches past,
      (run.attempt, run.backend.kind) ∈ entry.toList ++ entries past := by
  constructor
  · intro start member
    rcases books.entry with ⟨rfl, _, kept⟩ | ⟨kind, rfl, _, waits⟩
    · exact ledger.pending start (kept start member)
    · obtain ⟨attempt, rfl⟩ := waits start member
      exact attempt ▸ List.mem_cons_self
  · intro run member
    rcases List.mem_append.mp member with launched | old
    · rcases books.ran with rfl | ⟨only, rfl, _, _, whence⟩
      · contradiction
      · obtain rfl : run = only := List.mem_singleton.mp launched
        rcases whence with rfl | ⟨rfl, kind, start, waits, attempt⟩
        · exact List.mem_cons_self
        · rw [kind, ← attempt]
          exact ledger.pending start waits
    · exact List.mem_append_right _ (ledger.agree run old)

end

theorem next (ledger : Ledger past c) (made : c.follower.move? move = some g)
    (speaker : Option Nat) :
    Ledger (⟨⟨c.follower, move, g⟩, speaker⟩ :: past) (c.next move g) := by
  have books := ledger.sound.books made
  have launched : launches (⟨⟨c.follower, move, g⟩, speaker⟩ :: past) =
    launchedSince c.follower.counts.syncs g ++ launches past := rfl
  have entered := entries_cons ⟨⟨c.follower, move, g⟩, speaker⟩ past
  have numbers := ledger.numbers_next books (numbered_move made).syncs
  have entries := ledger.entries_next books
  have agree := ledger.agree_next books
  rw [← launched] at numbers agree
  have attached : ∀ run ∈ (c.next move g).attached,
      run ∈ launches (⟨⟨c.follower, move, g⟩, speaker⟩ :: past) := by
    intro run member
    rw [launched]
    rcases List.mem_append.mp member with kept | new
    · refine List.mem_append_right _ (ledger.attached run ?_)
      split at kept
      · exact (List.mem_filter.mp kept).1
      · exact kept
    · exact List.mem_append_left _ new
  exact {
    sound := ledger.sound.moved made
    numbers := numbers.1
    distinct := numbers.2
    attempts := entered ▸ entries.1
    single := entered ▸ entries.2
    pending := entered ▸ agree.1
    agree := entered ▸ agree.2
    attached := attached }

theorem plays {past later : List Scene} {d : Course} (ledger : Ledger past c)
    (plays : Plays past c later d) : Ledger (later ++ past) d := by
  induction plays with
  | start => exact ledger
  | move before made known ih => exact ih.next made _

/-- What reports to a start's run is of the kind of the run's backend. -/
theorem speaks_for (ledger : Ledger past c) {number : Nat} {voice : Option BackendKind}
    (known : ∃ run ∈ launches past, run.number = number ∧
      ∃ entry ∈ entries past, entry.1 = run.attempt ∧ voice = some entry.2) :
    ∃ run ∈ launches past, run.number = number ∧ voice = some run.backend.kind := by
  obtain ⟨run, member, same, entry, among, attempt, rfl⟩ := known
  have only := List.inj_on_of_nodup_map ledger.single among (ledger.agree run member) attempt
  exact ⟨run, member, same, by rw [only]⟩

theorem speaks (ledger : Ledger past c) {after : Follower} {number : Nat}
    (made : c.follower.move? move = some g)
    (known : Known past ⟨⟨c.follower, move, after⟩, some number⟩) :
    ∃ run ∈ launches past, run.number = number ∧
      (c.follower.speech? move).map Prod.fst = some run.backend.kind := by
  cases move with
  | call called =>
    obtain rfl : number = called := Option.some.inj known
    obtain ⟨run, found, begins⟩ := Option.bind_eq_some_iff.mp made
    split at begins
    · contradiction
    · rename_i waits
      obtain ⟨_, _, _, _, _, attached, _⟩ := ledger.sound.running (List.mem_of_find?_eq_some found)
      have same : run.number = number := by simpa using List.find?_some found
      refine ⟨run.launched, ledger.attached _ (by simp [attached]), same, ?_⟩
      simp [speech?, found, waits, RunLoop.launched]
  | _ => exact ledger.speaks_for (known number rfl)

end Ledger

theorem told_cons (scene : Scene) (scenes : List Scene) :
    told (scene :: scenes) = told scenes ++ scene.told := by
  unfold told
  rw [List.reverse_cons, List.flatMap_append, List.flatMap_singleton]

theorem saidBy_cons (number : Nat) (scene : Scene) (scenes : List Scene) :
    saidBy number (scene :: scenes) = saidBy number scenes ++ scene.saidBy number := by
  unfold saidBy
  rw [List.reverse_cons, List.flatMap_append, List.flatMap_singleton]

section
variable (number : Nat)

theorem ofRun_append (first second : List (Option Nat × Event)) :
    ofRun number (first ++ second) = ofRun number first ++ ofRun number second := by
  unfold ofRun
  rw [List.filter_append, List.map_append]

theorem ofRun_tagged (who : Option Nat) (events : List Event) :
    ofRun number (events.map fun event => (who, event)) =
      if who = some number then events else [] := by
  unfold ofRun
  rw [List.filter_map, List.map_map]
  by_cases same : who = some number
  · simp [same, Function.comp_def]
  · simp [same, Function.comp_def]

theorem ofRun_announced (runs : List RunLoop) :
    ofRun number (runs.flatMap fun run =>
        run.backend.announcement.map fun event => (some run.number, event)) =
      (runs.filter (fun run => run.number = number)).flatMap fun run =>
        run.backend.announcement := by
  induction runs with
  | nil => rfl
  | cons run rest ih =>
    rw [List.flatMap_cons, ofRun_append, ofRun_tagged, ih]
    by_cases same : run.number = number
    · simp [same]
    · simp [same]

theorem Scene.ofRun_told (scene : Scene) :
    ofRun number scene.told =
      (if scene.speaker = some number then scene.before.reported scene.move else []) ++
        (scene.launched.filter (fun run => run.number = number)).flatMap
          fun run => run.backend.announcement := by
  rw [Scene.told, ofRun_append, ofRun_tagged, ofRun_announced]

end

theorem Scene.told_events (scene : Scene) :
    scene.told.map Prod.snd = scene.before.reported scene.move ++
      scene.launched.flatMap fun run => run.backend.announcement := by
  rw [Scene.told, List.map_append, List.map_flatMap]
  simp only [List.map_map, Function.comp_def, List.map_id']

structure Matches (c : Course) (later : List Scene) : Prop where
  ahead : ∀ number, c.follower.counts.syncs < number →
    ofRun number (told later) = [] ∧ saidBy number later = []
  told : ∀ run ∈ launches later, ofRun run.number (told later) =
    run.backend.announcement ++ run.backend.kind.tells (saidBy run.number later)

theorem newer_launchedSince {syncs : Nat} {g : Follower} {run : RunLoop}
    (launched : run ∈ launchedSince syncs g) : syncs < run.number := by
  obtain ⟨started, member, rfl⟩ := List.mem_map.mp launched
  have new : syncs < started.number := by simpa using (List.mem_filter.mp member).2
  exact new

namespace Ledger

variable {past : List Scene} {c : Course} {move : Move} {g : Follower}

/-- In a scene the backend of a run that was launched before tells of peers what it says. -/
theorem reports (ledger : Ledger past c) {speaker : Option Nat}
    (made : c.follower.move? move = some g)
    (known : Known past ⟨⟨c.follower, move, g⟩, speaker⟩) {run : RunLoop}
    (member : run ∈ launches past) :
    ofRun run.number (Scene.told ⟨⟨c.follower, move, g⟩, speaker⟩) =
      run.backend.kind.tells (Scene.saidBy run.number ⟨⟨c.follower, move, g⟩, speaker⟩) := by
  have none : (launchedSince c.follower.counts.syncs g).filter
      (fun other => other.number = run.number) = [] := by
    rw [List.filter_eq_nil_iff]
    intro other launched
    have new := newer_launchedSince launched
    have old := ledger.numbers run member
    simp only [decide_eq_true_eq]
    omega
  rw [Scene.ofRun_told]
  simp only [Scene.launched, none, List.flatMap_nil, List.append_nil, Scene.saidBy]
  by_cases speaks : speaker = some run.number
  · subst speaks
    obtain ⟨other, among, same, kind⟩ := ledger.speaks made known
    obtain rfl := List.inj_on_of_nodup_map ledger.distinct among member same
    obtain ⟨⟨_, notices⟩, said, rfl⟩ := Option.map_eq_some_iff.mp kind
    simp [reported, said]
  · simp [speaks, BackendKind.tells_nil]

/-- In a scene nothing is told and said of a run that was not launched before, unless it is launched
in it. -/
theorem unreported (ledger : Ledger past c) {speaker : Option Nat}
    (made : c.follower.move? move = some g)
    (known : Known past ⟨⟨c.follower, move, g⟩, speaker⟩) {number : Nat}
    (ahead : c.follower.counts.syncs < number) :
    ofRun number (Scene.told ⟨⟨c.follower, move, g⟩, speaker⟩) =
      ((launchedSince c.follower.counts.syncs g).filter (fun run => run.number = number)).flatMap
        (fun run => run.backend.announcement) ∧
      Scene.saidBy number ⟨⟨c.follower, move, g⟩, speaker⟩ = [] := by
  have silent : speaker ≠ some number := by
    rintro rfl
    obtain ⟨run, member, same, _⟩ := ledger.speaks made known
    have := ledger.numbers run member
    omega
  constructor
  · rw [Scene.ofRun_told, if_neg silent]
    rfl
  · simp [Scene.saidBy, silent]

/-- One more scene keeps what all runs told in line with their kinds. -/
theorem matches_next {past later : List Scene} (ledger : Ledger (later ++ past) c)
    (matched : Matches c later) {speaker : Option Nat} (made : c.follower.move? move = some g)
    (known : Known (later ++ past) ⟨⟨c.follower, move, g⟩, speaker⟩) :
    Matches (c.next move g) (⟨⟨c.follower, move, g⟩, speaker⟩ :: later) := by
  have books := ledger.sound.books made
  constructor
  · intro number ahead
    have before : c.follower.counts.syncs < number :=
      Nat.lt_of_le_of_lt (numbered_move made).syncs ahead
    have none : (launchedSince c.follower.counts.syncs g).filter
        (fun run => run.number = number) = [] := by
      rcases books.ran with none | ⟨run, one, _, fits, _⟩
      · rw [none, List.filter_nil]
      · have other : run.number ≠ number := Nat.ne_of_lt (Nat.lt_of_le_of_lt fits ahead)
        simp [one, other]
    obtain ⟨toldBefore, saidBefore⟩ := matched.ahead number before
    obtain ⟨told, said⟩ := ledger.unreported made known before
    rw [told_cons, ofRun_append, saidBy_cons, toldBefore, saidBefore, told, said, none]
    exact ⟨rfl, rfl⟩
  · intro run member
    rw [told_cons, ofRun_append, saidBy_cons, run.backend.kind.tells_append]
    -- Of a run that is launched in this scene nothing was told before, and of another one nothing
    -- is announced in it.
    rcases List.mem_append.mp member with launched | old
    · have new := newer_launchedSince launched
      obtain ⟨toldBefore, saidBefore⟩ := matched.ahead run.number new
      obtain ⟨told, said⟩ := ledger.unreported made known new
      have alone : (launchedSince c.follower.counts.syncs g).filter
          (fun other => other.number = run.number) = [run] := by
        have launched : run ∈ launchedSince c.follower.counts.syncs g := launched
        rcases books.ran with none | ⟨only, one, _⟩
        · simp [none] at launched
        · obtain rfl : run = only := by simpa [one] using launched
          simp [one]
      rw [toldBefore, saidBefore, told, said, alone, BackendKind.tells_nil]
      simp
    · have inside : run ∈ launches (later ++ past) := by
        unfold launches
        rw [List.flatMap_append]
        exact List.mem_append_left _ old
      rw [matched.told run old, ledger.reports made known inside, List.append_assoc]

end Ledger

namespace Plays

variable {past later : List Scene} {c d : Course}

theorem matched (plays : Plays past c later d) (ledger : Ledger past c) : Matches d later := by
  induction plays with
  | start => exact ⟨fun _ _ => ⟨rfl, rfl⟩, fun _ => nofun⟩
  | move before made known ih => exact (ledger.plays before).matches_next ih made known

theorem heard (plays : Plays past c later d) (ledger : Ledger past c) {position : Nat}
    (hears : c.follower.hears position = true) :
    d.follower.hears position = true ∧ d.follower.peersHeard position =
      c.follower.peersHeard position ++ (told later).map Prod.snd := by
  induction plays with
  | start => exact ⟨hears, (List.append_nil _).symm⟩
  | @move later d move g speaker before made known ih =>
    obtain ⟨still, heard⟩ := ih
    have tells := (ledger.plays before).sound.tellsPeers still made
    have confined : Confined move.Opens move.Reports d.follower g := .of_move made
    refine ⟨confined.hears still, ?_⟩
    have next : (d.next move g).follower = g := rfl
    rw [next, tells.heard, heard, told_cons, List.map_append, Scene.told_events, List.append_assoc]
    rfl

theorem announces (plays : Plays past c later d) (ledger : Ledger past c) {position : Nat}
    (hears : c.follower.hears position = true) : ∀ scene ∈ later, ∀ run ∈ scene.launched,
      Announces position scene.before run scene.after := by
  induction plays with
  | start => exact fun _ => nofun
  | @move later d move g speaker before made known ih =>
    have tells := (ledger.plays before).sound.tellsPeers (before.heard ledger hears).1 made
    exact List.forall_mem_cons.mpr ⟨tells.announces, ih⟩

end Plays

/-- What the listener at a position hears of peers in later scenes is what is told in them, in
order. Of each session that is launched in them this is, where it was configured with a server, once
that there are no peers, said when the backend is attached and before its run begins; and otherwise
what its backend says, once each, in order and with its counts. -/
structure PeersMatch (position : Nat) (past : List Scene) (c : Follower) (later : List Scene)
    (d : Follower) : Prop where
  heard : d.peersHeard position = c.peersHeard position ++ (told later).map Prod.snd
  agree : ∀ run ∈ launches later, (run.attempt, run.backend.kind) ∈ entries (later ++ past)
  rpc : ∀ run ∈ launches later, (run.attempt, .rpc) ∈ entries (later ++ past) →
    ofRun run.number (told later) = [.peerDisconnected (-1)]
  spv : ∀ run ∈ launches later, (run.attempt, .spv) ∈ entries (later ++ past) →
    ofRun run.number (told later) = (saidBy run.number later).filterMap Notification.peer?
  announces : ∀ scene ∈ later, ∀ run ∈ scene.launched,
    Announces position scene.before run scene.after

namespace Plays

/-- Over every course of moves each session tells of peers as its kind does, whatever its backend
says. -/
theorem peers_match {first c d : Course} {past later : List Scene} (initial : first.Initial)
    (before : Plays [] first past c) (plays : Plays past c later d) {position : Nat}
    (hears : c.follower.hears position = true) :
    PeersMatch position past c.follower later d.follower := by
  have ledger : Ledger past c := by
    have ledger := (Ledger.of_initial initial).plays before
    rwa [List.append_nil] at ledger
  have after := ledger.plays plays
  have matched := plays.matched ledger
  have inside {run : RunLoop} (member : run ∈ launches later) : run ∈ launches (later ++ past) := by
    unfold launches
    rw [List.flatMap_append]
    exact List.mem_append_left _ member
  have kind {run : RunLoop} (member : run ∈ launches later) {kind : BackendKind}
      (configured : (run.attempt, kind) ∈ entries (later ++ past)) : run.backend.kind = kind := by
    have agree := after.agree run (inside member)
    exact congrArg Prod.snd (List.inj_on_of_nodup_map after.single agree configured rfl)
  refine ⟨(plays.heard ledger hears).2, fun run member => after.agree run (inside member), ?_, ?_,
    plays.announces ledger hears⟩
  · intro run member configured
    have server := kind member configured
    rw [matched.told run member, Backend.announcement, server]
    rfl
  · intro run member configured
    have peers := kind member configured
    rw [matched.told run member, Backend.announcement, peers]
    rfl

def after? (past : List Scene) :
    List Scene → Course → List (Move × Option Nat) → Option (List Scene × Course)
  | later, d, [] => some (later, d)
  | later, d, (taken, speaker) :: rest => (d.follower.move? taken).bind fun g =>
    if Known (later ++ past) ⟨⟨d.follower, taken, g⟩, speaker⟩ then
      after? past (⟨⟨d.follower, taken, g⟩, speaker⟩ :: later) (d.next taken g) rest
    else none

theorem of_after {moves : List (Move × Option Nat)} {later : List Scene} {d : Course}
    {result : List Scene × Course} (plays : Plays past c later d)
    (made : after? past later d moves = some result) : Plays past c result.1 result.2 := by
  induction moves generalizing later d with
  | nil =>
    cases made
    exact plays
  | cons first rest ih =>
    obtain ⟨taken, speaker⟩ := first
    obtain ⟨g, made, others⟩ := Option.bind_eq_some_iff.mp made
    split at others
    · rename_i known
      exact ih (plays.move made known) others
    · contradiction

/-- A session with a server, whose backend says that peers connected, and then one with peers, whose
backend says so too. -/
def both : List Scene × Course :=
  (after? [] [] Course.standard [
    (.step (.start (.rpc "127.0.0.1" "user" "pass" none)), none), (.call 1, some 1),
    (.notice .rpc (.peerConnected 5), some 1), (.runEnds 1 .ok, none),
    (.step (.start (.spv [])), none), (.notice .spv (.peerConnected 3), some 2)]).get (by decide)

theorem peers_match_both : Course.standard.Initial ∧
    Plays [] Course.standard [] Course.standard ∧ Plays [] Course.standard both.1 both.2 ∧
    Course.standard.follower.hears 0 = true ∧
    PeersMatch 0 [] Course.standard.follower both.1 both.2.follower ∧
    launches both.1 = [⟨2, 2, .spv 1, false⟩, ⟨1, 1, .rpc 1 ⟨1⟩, false⟩] ∧
    both.2.follower.peersHeard 0 = [.peerDisconnected (-1), .peerConnected 3] := by
  have plays : Plays [] Course.standard both.1 both.2 := of_after .start (Option.some_get _).symm
  have hears : Course.standard.follower.hears 0 = true := by decide +kernel
  refine ⟨Course.standard_initial, .start, plays, hears,
    peers_match Course.standard_initial .start plays hears, ?_, ?_⟩
  all_goals decide +kernel

end Plays

end ChainFollower

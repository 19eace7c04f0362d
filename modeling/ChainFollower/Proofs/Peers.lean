import ChainFollower.Proofs.Hearing
import ChainFollower.Proofs.Kinds

/-! What listeners are told of peers in one move: what a backend says that reports peers, and at the
launch of one that does not, once, that there are none. -/
namespace ChainFollower

def Notification.peer? : Notification → Option Event
  | .peerConnected count => some (.peerConnected count)
  | .peerDisconnected count => some (.peerDisconnected count)
  | _ => none

def BackendKind.tells (kind : BackendKind) (notices : List Notification) : List Event :=
  if kind.reportsPeers then notices.filterMap Notification.peer? else []

theorem BackendKind.tells_append (kind : BackendKind) (first second : List Notification) :
    kind.tells (first ++ second) = kind.tells first ++ kind.tells second := by
  unfold tells
  split
  · exact List.filterMap_append
  · rfl

theorem BackendKind.tells_nil (kind : BackendKind) : kind.tells [] = [] := by
  cases kind <;> rfl

def Backend.announcement (backend : Backend) : List Event :=
  if backend.kind.reportsPeers then [] else [.peerDisconnected (-1)]

namespace Follower

def peersHeard (f : Follower) (position : Nat) : List Event :=
  (f.hearing position).filter Event.isPeer

def speech? (f : Follower) : Move → Option (BackendKind × List Notification)
  | .step (.notify notification) => f.syncers.head?.map (fun made => (made.1.kind, [notification]))
  | .notice kind notification => some (kind, [notification])
  | .call number =>
    (f.runs.find? (fun run => run.number == number)).bind (fun run =>
      if run.begun then none
      else some (run.backend.kind,
        ((f.syncers.lookup run.backend.syncer).map RunScript.notices).getD []))
  | _ => none

def reported (f : Follower) (move : Move) : List Event :=
  match f.speech? move with
  | some (kind, notices) => kind.tells notices
  | none => []

section
variable {f g : Follower} {position : Nat}

theorem peersHeard_note (f : Follower) {happening : Happening} (unheard : ¬ happening.Heard)
    (position : Nat) : (f.note happening).peersHeard position = f.peersHeard position := by
  rw [peersHeard, hearing, (Without.note f unheard).heard_same]
  rfl

theorem Confined.peersHeard {opens : Prop} (confined : Confined opens False f g) (position : Nat) :
    g.peersHeard position = f.peersHeard position := by
  rw [Follower.peersHeard, Follower.peersHeard, hearing, hearing, List.filter_reverse,
    List.filter_reverse, confined.unreported]

/-- Whoever hears events hears of peers what is sent about them. -/
theorem peersHeard_broadcast (hears : f.hears position = true) (event : Event) :
    (f.broadcast event).peersHeard position =
      f.peersHeard position ++ [event].filter Event.isPeer := by
  rw [peersHeard, peersHeard, hearing, hearing, List.filter_reverse, List.filter_reverse,
    heardBy_broadcast rfl, if_pos hears, List.reverse_append]
  congr 1
  by_cases peer : event.isPeer = true
  · simp [peer]
  · simp [peer]

theorem Confined.notify_other {kind : BackendKind} {notification : Notification}
    (other : notification.peer? = none) (f : Follower) :
    Confined False False f (f.notify kind notification) := by
  cases notification with
  | peerConnected count => contradiction
  | peerDisconnected count => contradiction
  | synced caughtUp =>
    simp only [Follower.notify]
    split
    · exact (setState f _).trans ((log _ _).trans (broadcast_plain _ _ rfl))
    · exact broadcast_plain f _ rfl
  | rescanProgress height => exact broadcast_plain f _ rfl
  | rescanFinished height => exact broadcast_plain f _ rfl

theorem peersHeard_notify (hears : f.hears position = true) (kind : BackendKind)
    (notification : Notification) :
    (f.notify kind notification).peersHeard position =
      f.peersHeard position ++ kind.tells [notification] := by
  have reported (event : Event) (peer : event.isPeer = true) (record : LogRecord) :
      (if kind.reportsPeers then (f.log record).broadcast event else f).peersHeard position =
        f.peersHeard position ++ if kind.reportsPeers then [event] else [] := by
    cases kind.reportsPeers with
    | false => simp
    | true =>
      have hears : (f.log record).hears position = true := hears
      have logged : (f.log record).peersHeard position = f.peersHeard position :=
        peersHeard_note f id position
      simp only [if_true]
      rw [peersHeard_broadcast hears, logged]
      simp [peer]
  cases found : notification.peer? with
  | none =>
    have nothing : kind.tells [notification] = [] := by simp [BackendKind.tells, found]
    rw [nothing, List.append_nil]
    exact (Confined.notify_other found f).peersHeard position
  | some event =>
    cases notification with
    | peerConnected count => exact reported (.peerConnected count) rfl _
    | peerDisconnected count => exact reported (.peerDisconnected count) rfl _
    | _ => contradiction

theorem peersHeard_notifyEach (kind : BackendKind) (notices : List Notification)
    (hears : f.hears position = true) :
    (notices.foldl (notify kind) f).peersHeard position =
      f.peersHeard position ++ kind.tells notices := by
  induction notices generalizing f with
  | nil =>
    rw [kind.tells_nil, List.append_nil]
    rfl
  | cons notice rest ih =>
    have notified : Confined False True f (f.notify kind notice) := .notify kind notice f
    rw [List.foldl_cons, ih (notified.hears hears), peersHeard_notify hears, List.append_assoc,
      ← kind.tells_append]
    rfl

theorem peersHeard_announced (hears : f.hears position = true) (backend : Backend) :
    (f.announced backend).peersHeard position =
      f.peersHeard position ++ backend.announcement := by
  unfold announced Backend.announcement
  split
  · rw [List.append_nil]
  · exact peersHeard_broadcast hears _

theorem Noted.peersHeard (noted : Noted f g) (position : Nat) :
    g.peersHeard position = f.peersHeard position := by
  rcases noted with rfl | ⟨outcome, rfl⟩
  · rfl
  · exact peersHeard_note f id position

theorem Breaks.peersHeard {backend : Backend} (breaks : Breaks backend f g) (position : Nat) :
    g.peersHeard position = f.peersHeard position := by
  cases breaks with
  | backend => rfl
  | wallet => exact peersHeard_note f id position
  | loader => exact (peersHeard_note _ id position).trans (peersHeard_note f id position)

end

/-- The backend of this run was attached between `f` and `g`, with nothing told of peers before, and
its launch tells what it has to; the run is to begin. -/
structure Announces (position : Nat) (f : Follower) (run : RunLoop) (g : Follower) : Prop where
  attached : ∃ e : Follower,
    let h := e.attached run.backend
    h.session = ⟨.running, some run.backend, some (.start run.attempt)⟩ ∧
      h.wallet.link = some run.backend.link ∧ h.loader.link = some run.backend.link ∧
      h.runs = [] ∧ h.peersHeard position = f.peersHeard position ∧
      Noted ((h.announced run.backend).withRun run.attempt run.backend) g
  heard : g.peersHeard position = f.peersHeard position ++ run.backend.announcement
  waits : g.runs = [run] ∧ run.begun = false

theorem Opening.announces {attempt position : Nat} {backend : Backend} {f e g : Follower}
    (opening : Opening attempt f e) (hears : f.hears position = true)
    (after : Noted (((e.attached backend).announced backend).withRun attempt backend) g) :
    Announces position f ⟨f.counts.syncs + 1, attempt, backend, false⟩ g := by
  have before := opening.confined.trans (.attached e backend)
  have sync := SameSync.announced (e.attached backend) backend
  have none : (e.attached backend).runs = [] := opening.runs
  have syncs : ((e.attached backend).announced backend).counts.syncs = f.counts.syncs :=
    sync.syncs.trans opening.syncs
  have told := peersHeard_announced (before.hears hears) backend
  refine ⟨⟨e, ?_, rfl, rfl, none, before.peersHeard position, after⟩, ?_, ?_, rfl⟩
  · have session : (e.attached backend).session = ⟨.running, some backend, e.session.token⟩ := rfl
    rw [session, opening.session]
  · rw [after.peersHeard, ← before.peersHeard]
    exact told
  · have runs :
        g.runs = (((e.attached backend).announced backend).withRun attempt backend).runs :=
      congrArg Standing.runs after.standing
    rw [runs, withRun, sync.runs, none, syncs]
    rfl

/-- What is told of peers between `f` and `g`: what a backend tells in the move, and what the
launches of runs tell. -/
structure TellsPeers (position : Nat) (f : Follower) (move : Move) (g : Follower) : Prop where
  heard : g.peersHeard position = f.peersHeard position ++ (f.reported move ++
    (launchedSince f.counts.syncs g).flatMap fun run => run.backend.announcement)
  announces : ∀ run ∈ launchedSince f.counts.syncs g, Announces position f run g

namespace TellsPeers

variable {position : Nat} {f g : Follower} {move : Move}

theorem of_confined {opens : Prop} (silent : f.speech? move = none)
    (confined : Confined opens False f g)
    (none : launchedSince f.counts.syncs g = []) : TellsPeers position f move g := by
  constructor
  · simp [none, reported, silent, confined.peersHeard]
  · simp [none]

theorem of_speech {kind : BackendKind} {notices : List Notification}
    (speaks : f.speech? move = some (kind, notices))
    (heard : g.peersHeard position = f.peersHeard position ++ kind.tells notices)
    (none : launchedSince f.counts.syncs g = []) : TellsPeers position f move g := by
  constructor
  · simp [none, reported, speaks, heard]
  · simp [none]

end TellsPeers

end Follower

namespace Course.Sound

open Follower

variable {c : Course} {g : Follower} {position : Nat}

theorem tellsPeers_ready (sound : c.Sound) (hears : c.follower.hears position = true) {move : Move}
    {attempt : Nat} {backend : Backend} {e : Follower} (silent : c.follower.speech? move = none)
    (ready : Ready c.follower move attempt backend e) (made : c.follower.move? move = some g) :
    TellsPeers position c.follower move g := by
  have opening := sound.ready ready
  rcases attaching_cases ready made with ⟨_, after⟩ | ⟨k, breaks, after⟩
  · have announces := opening.announces hears after
    have launched := (launchedSince_attached opening after).1
    constructor
    · simp [launched, reported, silent, announces.heard]
    · simpa [launched] using announces
  · have same : g.peersHeard position = c.follower.peersHeard position :=
      (after.peersHeard position).trans
        ((breaks.peersHeard position).trans (opening.confined.peersHeard position))
    have none := launchedSince_broken opening breaks after
    constructor
    · simp [none, reported, silent, same]
    · simp [none]

theorem tellsPeers_starts (sound : c.Sound) (hears : c.follower.hears position = true) {move : Move}
    (silent : c.follower.speech? move = none) (starts : Starts c.follower move g)
    (made : c.follower.move? move = some g) : TellsPeers position c.follower move g := by
  cases starts with
  | nothing entry confined unstarted => exact .of_confined silent confined unstarted.runs
  | entered free confined runs => exact .of_confined silent confined runs
  | ready ready => exact sound.tellsPeers_ready hears silent ready made

theorem tellsPeers_call (sound : c.Sound) (hears : c.follower.hears position = true) {number : Nat}
    (made : c.follower.move? (.call number) = some g) :
    TellsPeers position c.follower (.call number) g := by
  have unstarted := sound.unstarted made nofun nofun
  obtain ⟨run, found, called⟩ := Option.bind_eq_some_iff.mp made
  split at called
  · contradiction
  · rename_i waits
    cases called
    have speaks : c.follower.speech? (.call number) = some (run.backend.kind,
        ((c.follower.syncers.lookup run.backend.syncer).map RunScript.notices).getD []) := by
      simp only [speech?, found, Option.bind_some, if_neg waits]
    refine .of_speech speaks ?_ unstarted.runs
    exact peersHeard_notifyEach run.backend.kind _ hears

/-- The notification comes from the backend that was made last. -/
theorem tellsPeers_notify (sound : c.Sound) (hears : c.follower.hears position = true)
    {notification : Notification}
    (made : c.follower.move? (.step (.notify notification)) = some g) :
    TellsPeers position c.follower (.step (.notify notification)) g := by
  have none := (sound.unstarted made nofun nofun).runs
  cases made
  cases made : c.follower.syncers with
  | nil =>
    have speechless : c.follower.speech? (.step (.notify notification)) = .none := by
      simp [speech?, made]
    have idle : ((Scenario.Step.notify notification).perform c.follower).2 = c.follower := by
      simp only [Scenario.Step.perform, made]
    have same : Confined False False c.follower c.follower := .refl _
    rw [idle] at none ⊢
    exact .of_confined speechless same none
  | cons last others =>
    have speaks : c.follower.speech? (.step (.notify notification)) =
        some (last.1.kind, [notification]) := by
      simp [speech?, made]
    refine .of_speech speaks ?_ none
    simp only [Scenario.Step.perform, made]
    exact peersHeard_notify hears last.1.kind notification

/-- In every move the listeners hear of peers what backends that report them say, and at the launch
of another one that there are none. -/
theorem tellsPeers (sound : c.Sound) (hears : c.follower.hears position = true) {move : Move}
    (made : c.follower.move? move = some g) : TellsPeers position c.follower move g := by
  have confined : Confined move.Opens move.Reports c.follower g := .of_move made
  cases move with
  | step step =>
    cases step with
    | start config =>
      have starts := sound.start config
      cases made
      exact sound.tellsPeers_starts hears rfl starts rfl
    | notify notification => exact sound.tellsPeers_notify hears made
    | _ => exact .of_confined rfl confined (sound.unstarted made nofun nofun).runs
  | notice kind notification =>
    have unstarted := sound.unstarted made nofun nofun
    cases made
    exact .of_speech rfl (peersHeard_notify hears kind notification) unstarted.runs
  | connection attempt reply =>
    exact sound.tellsPeers_starts hears rfl (sound.connection made) made
  | call number => exact sound.tellsPeers_call hears made
  | _ => exact .of_confined rfl confined (sound.unstarted made nofun nofun).runs

end Course.Sound

end ChainFollower

import ChainFollower.Proofs.Moves

/-! No move but those of rescans touches them: starting and ending a sync, its notifications, and
closing the wallet leave them alone. -/
namespace ChainFollower

def Move.Scans : Move → Prop
  | .step taken => taken.Scans
  | .produce _ => True
  | .consume _ => True
  | _ => False

def Happening.Elsewhere : Happening → Prop
  | heard _ _ => False
  | saw (.rpcClient _) => False
  | saw (.connect _ _) => False
  | rescanEnded _ _ => False
  | _ => True

namespace Follower

open Act

/-- Work that leaves rescans, tokens and listeners alone, but for what listeners do when they hear an
event. Only work that `dials` has to do with the connection to a server and the kept client. -/
inductive Harmless (dials : Prop) : Follower → Follower → Prop where
  | spared {f g : Follower} (spared : SameTasksAndClient f g) : Harmless dials f g
  | same {f g : Follower}
      (rest : (g.session.token, g.scanning, g.listeners, g.cancelled, g.shutdown, g.cache,
        g.history) = (f.session.token, f.scanning, f.listeners, f.cancelled, f.shutdown, f.cache,
        f.history)) : Harmless dials f g
  | note (f : Follower) {happening : Happening} (elsewhere : happening.Elsewhere) :
    Harmless dials f (f.note happening)
  | broadcast (f : Follower) (event : Event) : Harmless dials f (f.broadcast event)
  | dialled {f g : Follower} (may : dials) (dialled : Dialled f g) : Harmless dials f g
  | trans {f g h : Follower} (first : Harmless dials f g) (second : Harmless dials g h) :
    Harmless dials f h

namespace Harmless

variable {dials : Prop}

theorem refl (f : Follower) : Harmless dials f f := same rfl

instance : Std.Refl (Harmless dials) := ⟨refl⟩

instance : IsTrans Follower (Harmless dials) := ⟨fun _ _ _ => trans⟩

theorem log (f : Follower) (record : LogRecord) : Harmless dials f (f.log record) :=
  note f trivial

theorem setWalletLink (link : Option Link) : Keeps (Harmless dials) (setWalletLink link) := by
  refine keeps_bind (keeps_update fun f => note f trivial) fun _ => ?_
  exact keeps_bind (keeps_panicAt _) fun _ => keeps_update fun f => same rfl

theorem setLoaderLink (link : Option Link) : Keeps (Harmless dials) (setLoaderLink link) := by
  refine keeps_bind (keeps_update fun f => note f trivial) fun _ => ?_
  exact keeps_bind (keeps_panicAt _) fun _ => keeps_update fun f => same rfl

theorem setState (f : Follower) (state : SyncState) : Harmless dials f (f.setState state) := by
  have assigned : Harmless dials f { f with session := { f.session with state := state } } :=
    same rfl
  exact assigned.trans (note _ trivial)

theorem close : Keeps (Harmless dials) Follower.close :=
  keeps_close (fun calls => spared calls.sameTasksAndClient) (fun f _ => note f trivial)
    (setWalletLink none) (setLoaderLink none)

theorem notify (kind : BackendKind) (notification : Notification) (f : Follower) :
    Harmless dials f (f.notify kind notification) :=
  related_notify log (fun f event _ => broadcast f event) (fun _ => setState _ _) kind
    notification f

theorem callRun (f : Follower) (run : RunLoop) : Harmless dials f (f.callRun run) := by
  let begun := f.runs.map (fun other =>
    if other.number = run.number then { other with begun := true } else other)
  have marked : Harmless dials f { f with runs := begun } := same rfl
  have called : Harmless dials { f with runs := begun }
    (Follower.saw { f with runs := begun } (.run run.backend.syncer f.session.state)) :=
    note _ trivial
  exact (marked.trans called).trans (related_notifyEach notify _ _ _)

theorem attach (backend : Backend) : Keeps (Harmless dials) (attach backend) := by
  refine keeps_bind (setWalletLink _) fun _ => keeps_bind (setLoaderLink _) fun _ => ?_
  refine keeps_bind (keeps_update fun f => ?_) fun _ => keeps_update fun f => setState f .running
  exact same rfl

theorem launch (attempt : Nat) (backend : Backend) :
    Keeps (Harmless dials) (launch attempt backend) := by
  have counted : Keeps (Harmless dials) (do
      let number := (← get).counts.syncs + 1
      Act.update (fun f => { f with
        counts := { f.counts with syncs := number }
        runs := f.runs ++ [⟨number, attempt, backend, false⟩] })
      pure number : Act Nat) := by
    refine keeps_bind keeps_get fun f => ?_
    exact keeps_bind (keeps_update fun f => same rfl) fun _ => keeps_pure _
  refine keeps_bind (keeps_panicAt _) fun _ => keeps_bind (attach backend) fun _ => ?_
  split
  · exact keeps_bind (keeps_update fun f => broadcast f _) fun _ => counted
  · exact counted

theorem reportEnd (f : Follower) (kind : BackendKind) (result : Option RunError) :
    Harmless dials f (f.reportEnd kind result) := by
  rcases result with _ | _ | _ | text
  · exact log f _
  · exact (log f _).trans (broadcast _ _)
  · exact (log f _).trans (broadcast _ _)
  · exact (log f _).trans (broadcast _ _)

theorem connect (attempt : Nat) (address username password : String) (certificate : Bytes) :
    Keeps (Harmless True) (connect attempt address username password certificate) := by
  refine keeps_bind keeps_get fun f => ?_
  dsimp only
  split
  · exact keeps_fail _
  · rename_i endpoint _
    refine keeps_bind (keeps_update fun f => log f _) fun _ => ?_
    refine keeps_bind (fun f => dialled trivial ((builds_makeClient _).keeps f)) fun made => ?_
    cases made with
    | error e => exact keeps_fail _
    | ok client =>
      refine keeps_bind (keeps_update fun f => dialled trivial (.saw f trivial)) fun _ => ?_
      refine keeps_bind keeps_get fun f => ?_
      split
      · refine keeps_map some fun f => ?_
        exact dialled trivial ((builds_connected attempt client _ _).keeps f)
      · refine keeps_bind (keeps_update fun f => ?_) fun _ => keeps_pure _
        exact same rfl

theorem build (attempt : Nat) (config : BackendConfig) :
    Keeps (Harmless True) (build attempt config) := by
  cases config with
  | spv peers =>
    exact keeps_map some fun f => spared ((builds_buildSpv peers).sameTasksAndClient.keeps f)
  | rpc address username password certificate =>
    refine keeps_bind keeps_get fun f => ?_
    split
    · rename_i client _
      refine keeps_bind (keeps_update fun f => log f _) fun _ => ?_
      exact keeps_map some fun f => spared ((builds_buildRpc client).sameTasksAndClient.keeps f)
    · exact connect attempt address username password _

end Harmless

/-- Work on a sync: besides harmless work its tasks come and go, the session is cleared or gets the
token of a start, and the tokens that the slots have are cancelled. -/
inductive Outside : Follower → Follower → Prop where
  | harmless {f g : Follower} (harmless : Harmless True f g) : Outside f g
  | same {f g : Follower}
      (rest : (g.scanning, g.listeners, g.cancelled, g.shutdown, g.history) =
        (f.scanning, f.listeners, f.cancelled, f.shutdown, f.history))
      (token : ∀ attempt, g.session.token = some (.rescan attempt) →
        f.session.token = some (.rescan attempt)) : Outside f g
  | cancelQuietly (f : Follower) : Outside f f.cancelQuietly
  | cancelRescan (f : Follower) : Outside f f.cancelRescan
  | trans {f g h : Follower} (first : Outside f g) (second : Outside g h) : Outside f h

namespace Outside

theorem refl (f : Follower) : Outside f f := harmless (.refl f)

instance : Std.Refl Outside := ⟨refl⟩

instance : IsTrans Follower Outside := ⟨fun _ _ _ => trans⟩

theorem setState (f : Follower) (state : SyncState) : Outside f (f.setState state) :=
  harmless (.setState f state)

theorem entered (f : Follower) (config : BackendConfig) : Outside f (f.entered config) := by
  let attempt := f.counts.startAttempts + 1
  let g := { f.setState .starting with
    counts := { (f.setState .starting).counts with startAttempts := attempt } }
  have begun : Outside f g := (setState f .starting).trans (same rfl fun _ => id)
  have logged : Outside g (g.log (.starting config)) := harmless (.log g _)
  -- The token that is stored is that of a start.
  exact (begun.trans logged).trans (same rfl fun _ => nofun)

theorem abortStart (f : Follower) : Outside f f.abortStart := by
  have cleared : Outside f.cancelQuietly
      { f.cancelQuietly with session := { f.session with token := none, backend := none } } :=
    same rfl fun _ => nofun
  exact ((cancelQuietly f).trans cleared).trans (setState _ .idle)

theorem startSync (config : BackendConfig) : Keeps Outside (startSync config) := by
  intro f
  rw [run_startSync]
  cases f.startBarrier? with
  | some e => exact refl f
  | none =>
    let attempt := f.counts.startAttempts + 1
    have built := (entered f config).trans (harmless (.build attempt config (f.entered config)))
    dsimp only
    split
    · rename_i backend g came
      rw [came] at built
      have launched : Keeps (Harmless True) (Started.launched <$> launch attempt backend) :=
        keeps_map _ (.launch attempt backend)
      exact built.trans (harmless (launched g))
    · rename_i g came
      rw [came] at built
      exact built
    · rename_i stop g came
      rw [came] at built
      exact built.trans ((harmless (.spared (SameTasksAndClient.warn g stop))).trans (abortStart _))

theorem finishStart (f : Follower) (start : PendingStart) (reply : Reply ConnectError) :
    Outside f (f.finishStart start reply) := by
  rw [finishStart_eq]
  let rest := f.starts.filter (fun other => other.attempt != start.attempt)
  have taken : Outside f { f with starts := rest } := same rfl fun _ => id
  have resumed : Outside { f with starts := rest }
      ((resumeStart start reply).run { f with starts := rest }).2 := by
    have building := builds_connected start.attempt start.client start.address reply
    have built := harmless (.dialled trivial (building.keeps { f with starts := rest }))
    rw [run_resumeStart]
    split
    · rename_i backend g came
      rw [came] at built
      exact built.trans (harmless (.launch start.attempt backend g))
    · rename_i stop g came
      rw [came] at built
      exact built.trans ((harmless (.spared (SameTasksAndClient.warn g stop))).trans (abortStart _))
  exact (taken.trans resumed).trans (harmless (.note _ trivial))

theorem abandonStart (f : Follower) : Outside f f.abandonStart.1 := by
  unfold Follower.abandonStart
  split
  · exact refl f
  · rename_i rest _
    have taken : Outside f { f with starts := rest } := same rfl fun _ => id
    exact (taken.trans (abortStart _)).trans (harmless (.note _ trivial))

theorem detach : Keeps Outside detach := by
  refine keeps_bind (keeps_update fun f => same rfl fun _ => nofun) fun _ => ?_
  refine keeps_bind (fun f => harmless (.setWalletLink none f)) fun _ => ?_
  refine keeps_bind (fun f => harmless (.setLoaderLink none f)) fun _ => ?_
  exact keeps_update fun f => setState f .idle

theorem endRun (run : RunLoop) (reply : Reply RunError) : Keeps Outside (endRun run reply) := by
  have concluded (result : Option RunError) : Keeps Outside (concludeRun run.backend result) := by
    intro f
    have begun := (setState f (SyncOutcome.ofRun result).state).trans
      (harmless (.dialled trivial (Dialled.ending f run.backend result)))
    have detached := begun.trans (detach (f.ending run.backend result))
    rw [run_concludeRun]
    split
    · rename_i g came
      rw [came] at detached
      exact detached.trans (harmless (.reportEnd g _ result))
    · rename_i stop g came
      rw [came] at detached
      exact detached
  cases reply with
  | ok => exact concluded none
  | error e => exact concluded (some e)
  | panic text => exact keeps_throw _

theorem finishRun (f : Follower) (run : RunLoop) (reply : Reply RunError) :
    Outside f (f.finishRun run reply) := by
  have taken : Outside f (f.withoutRun run) := same rfl fun _ => id
  have ended := taken.trans (endRun run reply (f.withoutRun run))
  unfold Follower.finishRun
  dsimp only
  split
  all_goals
    rename_i came
    change (Follower.endRun run reply).run (f.withoutRun run) = _ at came
    rw [came] at ended
    exact ended.trans (harmless (.note _ trivial))

theorem perform {step : Scenario.Step} (acts : ¬ step.LeavesSync) (f : Follower) :
    Outside f (step.perform f).2 := by
  cases step with
  | start config => exact startSync config f
  | abandonStart => exact abandonStart f
  | close => exact harmless (.close f)
  | closeWallet =>
    exact ((cancelQuietly f).trans (cancelRescan _)).trans (harmless (.close _))
  | notify notification =>
    simp only [Scenario.Step.perform]
    split
    · exact refl f
    · exact harmless (.notify _ _ f)
  | fail place fault =>
    simp only [Scenario.Step.perform, Scenario.Step.setFault]
    split <;> exact same rfl fun _ => id
  | attach link => exact same rfl fun _ => id
  | _ => exact absurd trivial acts

/-- The moves of a sync, whatever else they lead to. -/
theorem of_move {f g : Follower} {move : Move} (made : f.move? move = some g)
    (acts : ∀ step, move = .step step → ¬ step.LeavesSync) (other : ¬ move.Scans) :
    Outside f g := by
  cases move with
  | step step =>
    cases made
    exact perform (acts step rfl) f
  | notice kind notification =>
    cases made
    exact harmless (.notify kind notification f)
  | connection attempt reply =>
    obtain ⟨start, _, rfl⟩ := Option.map_eq_some_iff.mp made
    exact finishStart f start reply
  | call number =>
    obtain ⟨run, _, called⟩ := Option.bind_eq_some_iff.mp made
    split at called
    · contradiction
    · cases called
      exact harmless (.callRun f run)
  | runEnds number reply =>
    obtain ⟨run, _, ended⟩ := Option.bind_eq_some_iff.mp made
    split at ended
    · cases ended
      exact finishRun f run reply
    · contradiction
  | produce number => exact absurd trivial other
  | consume number => exact absurd trivial other

end Outside

namespace SameScans

variable {f g : Follower}

theorem of_harmless {dials : Prop} (harmless : Harmless dials f g) : SameScans f g := by
  induction harmless with
  | spared spared => exact spared.sameTasks.toSameScans
  | @same f g rest =>
    simp only [Prod.mk.injEq] at rest
    refine of_same ?_ fun attempt held => rest.1 ▸ held
    simp only [Prod.mk.injEq]
    exact ⟨rest.2.1, rest.2.2.1, rest.2.2.2.1, rest.2.2.2.2.1, rest.2.2.2.2.2.2⟩
  | @note f happening elsewhere =>
    refine note f ?_
    cases happening with
    | rescanEnded number outcome => exact elsewhere.elim
    | _ => exact id
  | broadcast f event => exact of_told (Told.broadcast event f)
  | dialled may dialled => exact dialled.sameTasks.toSameScans
  | trans _ _ first second => exact first.trans second

theorem of_outside (outside : Outside f g) : SameScans f g := by
  induction outside with
  | harmless harmless => exact of_harmless harmless
  | same rest token => exact of_same rest token
  | cancelQuietly f => exact (SameTasks.cancelQuietly f).toSameScans
  | cancelRescan f => exact (SameTasks.cancelRescan f).toSameScans
  | trans _ _ first second => exact first.trans second

end SameScans

theorem sameScans_of_move {f g : Follower} {move : Move} (made : f.move? move = some g)
    (other : ¬ move.Scans) : SameScans f g := by
  by_cases acts : ∀ step, move = .step step → ¬ step.LeavesSync
  · exact .of_outside (.of_move made acts other)
  · obtain ⟨step, rfl, leaves⟩ : ∃ step, move = .step step ∧ step.LeavesSync := by
      simpa using acts
    cases made
    exact (Scenario.Step.sameTasks_perform leaves other f).toSameScans

end Follower

end ChainFollower

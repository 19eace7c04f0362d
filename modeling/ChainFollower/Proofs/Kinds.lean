import ChainFollower.Proofs.Confined

/-! The backend of a start is of the kind of its configuration, also where the start had to wait for
its connection. -/
namespace ChainFollower

namespace Follower

open Act

/-- The session is in this start, and no task of it waits or runs. -/
structure Lone (attempt : Nat) (f : Follower) : Prop where
  session : f.session = ⟨.starting, none, some (.start attempt)⟩
  starts : f.starts = []
  runs : f.runs = []

/-- In this move of `f` the backend of the start with this number is there, and nothing is attached
yet in `g`. -/
inductive Ready (f : Follower) : Move → Nat → Backend → Follower → Prop where
  | started {config : BackendConfig} {backend : Backend} {g : Follower}
      (free : f.startBarrier? = none)
      (built : (build (f.counts.startAttempts + 1) config).run (f.entered config) =
        (.ok (some backend), g)) :
    Ready f (.step (.start config)) (f.counts.startAttempts + 1) backend g
  | resumed {start : PendingStart} {backend : Backend} {g : Follower}
      (found : f.starts.find? (fun other => other.attempt == start.attempt) = some start)
      (built : (connected start.attempt start.client start.address .ok).run
        { f with starts := f.starts.filter (fun other => other.attempt != start.attempt) } =
          (.ok backend, g)) :
    Ready f (.connection start.attempt .ok) start.attempt backend g

end Follower

open Follower

structure Follower.Opening (attempt : Nat) (f g : Follower) : Prop extends Lone attempt g where
  faults : g.faults = f.faults
  wallet : g.wallet.link = f.wallet.link
  loader : g.loader.link = f.loader.link
  syncs : g.counts.syncs = f.counts.syncs
  confined : Confined False False f g

/-- When the backend of a start is there, nothing else is under way. -/
theorem Course.Sound.ready {c : Course} (sound : c.Sound) {move : Move} {attempt : Nat}
    {backend : Backend} {g : Follower} (ready : Ready c.follower move attempt backend g) :
    Opening attempt c.follower g := by
  cases ready with
  | @started config backend g free built =>
    obtain ⟨none, starts, runs, _⟩ := sound.free free
    have confined : Confined False False c.follower ((build (c.follower.counts.startAttempts + 1)
        config).run (c.follower.entered config)).2 :=
      (Confined.entered c.follower config).trans (Confined.build _ config _)
    have building := built_build (c.follower.counts.startAttempts + 1) config
      (c.follower.entered config)
    rw [built] at building confined
    cases building with
    | ready _ sync =>
      exact {
        session := sync.session.trans (entered_session config none)
        starts := sync.starts.trans starts
        runs := sync.runs.trans runs
        faults := sync.faults
        wallet := sync.walletLink
        loader := sync.loaderLink
        syncs := sync.syncs
        confined := confined }
  | @resumed start backend g found built =>
    obtain ⟨state, none, starts, token, runs, _⟩ :=
      sound.pending (List.mem_of_find?_eq_some found)
    let rest := c.follower.starts.filter (fun other => other.attempt != start.attempt)
    have noRest : rest = [] := by simp [rest, starts]
    have taken : Confined False False c.follower { c.follower with starts := rest } := .same rfl
    have confined := taken.trans
      (Confined.connected start.attempt start.client start.address .ok _)
    have sync := (builds_connected start.attempt start.client start.address .ok).sameSync
      { c.follower with starts := rest }
    rw [built] at sync confined
    exact {
      session := by rw [sync.session, ← state, ← none, ← token]
      starts := sync.starts.trans noRest
      runs := sync.runs.trans runs
      faults := sync.faults
      wallet := sync.walletLink
      loader := sync.loaderLink
      syncs := sync.syncs
      confined := confined }

namespace Follower

def Noted (f g : Follower) : Prop := g = f ∨ ∃ outcome, g = f.note (.startEnded outcome)

theorem Noted.standing {f g : Follower} (noted : Noted f g) : g.standing = f.standing := by
  rcases noted with rfl | ⟨outcome, rfl⟩ <;> rfl

/-- A backend that is there is attached and its task is made, or a call panics. -/
theorem attaching_cases {f : Follower} {move : Move} {attempt : Nat} {backend : Backend}
    {e g : Follower} (ready : Ready f move attempt backend e) (made : f.move? move = some g) :
    e.Calm ∧ Noted (((e.attached backend).announced backend).withRun attempt backend) g ∨
      ∃ k, Breaks backend e k ∧ Noted k g := by
  have after : Noted ((launch attempt backend).run e).2 g := by
    cases ready with
    | @started config backend e free built =>
      have launched : ((startSync config).run f).2 =
          ((launch (f.counts.startAttempts + 1) backend).run e).2 := by
        rw [run_startSync, free]
        dsimp only
        rw [built]
        dsimp only
        rw [Act.run_map]
        rcases (launch (f.counts.startAttempts + 1) backend).run e with ⟨stop | number, h⟩ <;> rfl
      exact Or.inl ((Option.some.inj made).symm.trans launched)
    | @resumed start backend e found built =>
      have moved : f.move? (.connection start.attempt .ok) = some (f.finishStart start .ok) := by
        simp only [move?, found, Option.map_some]
      refine Or.inr ⟨StartOutcome.ofResult ((launch start.attempt backend).run e).1, ?_⟩
      refine (Option.some.inj (made.symm.trans moved)).trans ?_
      rw [finishStart_eq]
      dsimp only
      rw [run_resumeStart, built]
  rcases launch_cases attempt backend e with ⟨calm, came⟩ | ⟨text, k, came, breaks⟩
  · rw [came] at after
    exact Or.inl ⟨calm, after⟩
  · rw [came] at after
    exact Or.inr ⟨k, breaks, after⟩

def startOf? (f : Follower) : Move → Option (Nat × BackendKind)
  | .step (.start config) =>
    if f.startBarrier?.isNone then some (f.counts.startAttempts + 1, config.kind) else none
  | _ => none

def launchedSince (syncs : Nat) (g : Follower) : List RunLoop :=
  (g.runs.filter (fun run => syncs < run.number)).map RunLoop.launched

theorem launchedSince_nil {syncs : Nat} {g : Follower}
    (old : ∀ run ∈ g.runs, run.number ≤ syncs) : launchedSince syncs g = [] := by
  unfold launchedSince
  rw [List.map_eq_nil_iff, List.filter_eq_nil_iff]
  intro run member
  simpa using old run member

structure Unstarted (f g : Follower) : Prop where
  runs : launchedSince f.counts.syncs g = []
  starts : ∀ start ∈ g.starts, start ∈ f.starts
  attempts : g.counts.startAttempts = f.counts.startAttempts

inductive Starts (f : Follower) : Move → Follower → Prop where
  | nothing {move : Move} {g : Follower} (entry : f.startOf? move = none)
      (confined : Confined False False f g) (unstarted : Unstarted f g) : Starts f move g
  | entered {config : BackendConfig} {g : Follower} (free : f.startBarrier? = none)
      (confined : Confined False False f g) (runs : launchedSince f.counts.syncs g = [])
      (attempts : g.counts.startAttempts = f.counts.startAttempts + 1)
      (starts : ∀ start ∈ g.starts,
        start.attempt = f.counts.startAttempts + 1 ∧ config.kind = .rpc) :
    Starts f (.step (.start config)) g
  | ready {move : Move} {attempt : Nat} {backend : Backend} {e g : Follower}
      (ready : Ready f move attempt backend e) : Starts f move g

end Follower

namespace Course.Sound

variable {c : Course} {g : Follower}

theorem unstarted (sound : c.Sound) {move : Move} (made : c.follower.move? move = some g)
    (fresh : ∀ config, move ≠ .step (.start config))
    (waiting : ∀ attempt reply, move ≠ .connection attempt reply) : Unstarted c.follower g := by
  cases moved_of_move made with
  | stays stays =>
    refine ⟨launchedSince_nil (sound.runs_old stays.runs), ?_, stays.attempts⟩
    rw [stays.starts]
    exact fun _ => id
  | started config => exact absurd rfl (fresh config)
  | resumed => exact absurd rfl (waiting _ _)
  | @abandoned start rest pending =>
    have aborted := abortStart_standing { c.follower with starts := rest }
    obtain ⟨_, _, _, _, runs, _⟩ := sound.pending (by simp [pending] : start ∈ _)
    refine ⟨launchedSince_nil ?_, ?_, congrArg Standing.attempts aborted⟩
    · have none : ({ c.follower with starts := rest }.abortStart).runs = [] :=
        (congrArg Standing.runs aborted).trans runs
      intro run member
      have member : run ∈ ({ c.follower with starts := rest }.abortStart).runs := member
      simp [none] at member
    · intro other member
      have left : ({ c.follower with starts := rest }.abortStart).starts = rest :=
        congrArg Standing.starts aborted
      have member : other ∈ ({ c.follower with starts := rest }.abortStart).starts := member
      rw [pending]
      exact List.mem_cons_of_mem _ (left ▸ member)
  | @panicked run text member begun =>
    refine ⟨launchedSince_nil fun other inside => ?_, fun _ => id, rfl⟩
    obtain ⟨_, _, _, _, _, _, numbered⟩ := sound.running (List.mem_filter.mp inside).1
    exact numbered
  | @returned run g result member begun ended =>
    obtain ⟨_, _, _, _, runs, _, _⟩ := sound.running member
    have noRuns : g.runs = [] := by simpa [Follower.withoutRun, runs] using ended.runs
    refine ⟨launchedSince_nil (by simp [noRuns]), ?_, ended.attempts⟩
    rw [ended.starts]
    exact fun _ => id

theorem start (sound : c.Sound) (config : BackendConfig) :
    Starts c.follower (.step (.start config)) ((startSync config).run c.follower).2 := by
  rw [run_startSync]
  cases barrier : c.follower.startBarrier? with
  | some e =>
    refine .nothing ?_ (Confined.refl _) ⟨launchedSince_nil ?_, fun _ => id, rfl⟩
    · simp [startOf?, barrier]
    · exact sound.runs_old rfl
  | none =>
    obtain ⟨_, starts, runs, _⟩ := sound.free barrier
    let attempt := c.follower.counts.startAttempts + 1
    have confined : Confined False False c.follower
        ((build attempt config).run (c.follower.entered config)).2 :=
      (Confined.entered c.follower config).trans (Confined.build _ config _)
    have fits := yields_build attempt config (c.follower.entered config)
    have built := built_build attempt config (c.follower.entered config)
    dsimp only
    cases came : (build attempt config).run (c.follower.entered config) with
    | mk result g =>
      rw [came] at confined built
      cases built with
      | ready backend sync => exact .ready (.started barrier came)
      | @waiting client server h sync =>
        have noRuns : h.runs = [] := sync.runs.trans runs
        have noStarts : h.starts = [] := sync.starts.trans starts
        refine .entered barrier confined (launchedSince_nil (by simp [noRuns])) sync.attempts ?_
        intro start member
        rw [noStarts] at member
        exact ⟨by rw [List.mem_singleton.mp member], fits none _ came⟩
      | @stopped stop _ sync late =>
        have stopped := stopped_standing g stop
        have noRuns : (g.warn stop).abortStart.runs = [] :=
          (congrArg Standing.runs stopped).trans (sync.runs.trans runs)
        have noStarts : (g.warn stop).abortStart.starts = [] :=
          (congrArg Standing.starts stopped).trans (sync.starts.trans starts)
        refine .entered barrier ((confined.trans (.warn g stop)).trans (.abortStart _))
          (launchedSince_nil (by simp [noRuns]))
          ((congrArg Standing.attempts stopped).trans sync.attempts) ?_
        simp [noStarts]

theorem connection (sound : c.Sound) {attempt : Nat} {reply : Reply ConnectError}
    (made : c.follower.move? (.connection attempt reply) = some g) :
    Starts c.follower (.connection attempt reply) g := by
  obtain ⟨start, found, rfl⟩ := Option.map_eq_some_iff.mp made
  obtain rfl : start.attempt = attempt := by simpa using List.find?_some found
  obtain ⟨_, _, starts, _, runs, _⟩ := sound.pending (List.mem_of_find?_eq_some found)
  let rest := c.follower.starts.filter (fun other => other.attempt != start.attempt)
  have noRest : rest = [] := by simp [rest, starts]
  have taken : Confined False False c.follower { c.follower with starts := rest } := .same rfl
  have confined := taken.trans (Confined.connected start.attempt start.client start.address reply _)
  have sync := (builds_connected start.attempt start.client start.address reply).sameSync
    { c.follower with starts := rest }
  rw [finishStart_eq]
  dsimp only
  rw [run_resumeStart]
  cases came : (connected start.attempt start.client start.address reply).run
      { c.follower with starts := rest } with
  | mk result g =>
    rw [came] at confined sync
    cases result with
    | ok backend =>
      obtain rfl := connected_accepted came
      exact .ready (.resumed found came)
    | error stop =>
      have stopped := stopped_standing g stop
      have noRuns : (g.warn stop).abortStart.runs = [] :=
        (congrArg Standing.runs stopped).trans (sync.runs.trans runs)
      have noStarts : (g.warn stop).abortStart.starts = [] :=
        (congrArg Standing.starts stopped).trans (sync.starts.trans noRest)
      have ended := (confined.trans (.warn g stop)).trans (.abortStart _)
      refine .nothing rfl (ended.trans (.note _ trivial)) ⟨launchedSince_nil ?_, ?_, ?_⟩
      · intro run member
        have member : run ∈ (g.warn stop).abortStart.runs := member
        simp [noRuns] at member
      · intro other member
        have member : other ∈ (g.warn stop).abortStart.starts := member
        simp [noStarts] at member
      · exact (congrArg Standing.attempts stopped).trans sync.attempts

end Course.Sound

namespace Follower

/-- What a move of `f` does for the books: the start that it enters, the runs that it launches, and
the starts that wait in `g`. -/
structure Books (f : Follower) (entry : Option (Nat × BackendKind)) (ran : List RunLoop)
    (g : Follower) : Prop where
  ran : ran = [] ∨ ∃ run, ran = [run] ∧ run.number = f.counts.syncs + 1 ∧
    run.number ≤ g.counts.syncs ∧ (entry = some (run.attempt, run.backend.kind) ∨
      entry = none ∧ run.backend.kind = .rpc ∧ ∃ start ∈ f.starts, start.attempt = run.attempt)
  entry : entry = none ∧ g.counts.startAttempts = f.counts.startAttempts ∧
      (∀ start ∈ g.starts, start ∈ f.starts) ∨
    ∃ kind, entry = some (f.counts.startAttempts + 1, kind) ∧
      g.counts.startAttempts = f.counts.startAttempts + 1 ∧
      ∀ start ∈ g.starts, start.attempt = f.counts.startAttempts + 1 ∧ kind = .rpc

theorem Unstarted.books {f g : Follower} (unstarted : Unstarted f g) :
    Books f none (launchedSince f.counts.syncs g) g :=
  ⟨Or.inl unstarted.runs, Or.inl ⟨rfl, unstarted.attempts, unstarted.starts⟩⟩

theorem startOf?_free {f : Follower} (free : f.startBarrier? = none) (config : BackendConfig) :
    f.startOf? (.step (.start config)) = some (f.counts.startAttempts + 1, config.kind) := by
  simp [startOf?, free]

/-- The run that a backend gets which is attached. -/
theorem launchedSince_attached {attempt : Nat} {backend : Backend} {f e g : Follower}
    (opening : Opening attempt f e)
    (after : Noted (((e.attached backend).announced backend).withRun attempt backend) g) :
    launchedSince f.counts.syncs g = [⟨f.counts.syncs + 1, attempt, backend, false⟩] ∧
      g.counts.syncs = f.counts.syncs + 1 := by
  have sync := SameSync.announced (e.attached backend) backend
  have before : ((e.attached backend).announced backend).runs = [] := sync.runs.trans opening.runs
  have syncs : ((e.attached backend).announced backend).counts.syncs = f.counts.syncs :=
    sync.syncs.trans opening.syncs
  have kept : g.runs = ((e.attached backend).announced backend).runs ++
        [⟨((e.attached backend).announced backend).counts.syncs + 1, attempt, backend, false⟩] ∧
      g.counts.syncs = ((e.attached backend).announced backend).counts.syncs + 1 :=
    ⟨congrArg Standing.runs after.standing, congrArg Standing.syncs after.standing⟩
  rw [before, syncs] at kept
  refine ⟨?_, kept.2⟩
  unfold launchedSince
  rw [kept.1]
  simp [RunLoop.launched]

theorem launchedSince_broken {attempt : Nat} {backend : Backend} {f e k g : Follower}
    (opening : Opening attempt f e) (breaks : Breaks backend e k) (after : Noted k g) :
    launchedSince f.counts.syncs g = [] := by
  have noRuns : k.runs = [] := by simpa [opening.runs] using breaks.stays.runs
  have kept : g.runs = k.runs := congrArg Standing.runs after.standing
  exact launchedSince_nil (by simp [kept, noRuns])

/-- What stands in `g` when attaching came to its end, one way or the other. -/
theorem attaching_standing {f : Follower} {move : Move} {attempt : Nat} {backend : Backend}
    {e g : Follower} (ready : Ready f move attempt backend e) (made : f.move? move = some g) :
    g.starts = e.starts ∧ g.counts.startAttempts = e.counts.startAttempts := by
  have noted {k : Follower} (noted : Noted k g) :
      g.starts = k.starts ∧ g.counts.startAttempts = k.counts.startAttempts :=
    ⟨congrArg Standing.starts noted.standing, congrArg Standing.attempts noted.standing⟩
  rcases attaching_cases ready made with ⟨_, after⟩ | ⟨k, breaks, after⟩
  · have sync := SameSync.announced (e.attached backend) backend
    obtain ⟨starts, attempts⟩ := noted after
    exact ⟨starts.trans sync.starts, attempts.trans sync.attempts⟩
  · obtain ⟨starts, attempts⟩ := noted after
    exact ⟨starts.trans breaks.stays.starts, attempts.trans breaks.stays.attempts⟩

end Follower

namespace Course.Sound

variable {c : Course} {g : Follower}

theorem books_ready (sound : c.Sound) {move : Move} {attempt : Nat} {backend : Backend}
    {e : Follower} (ready : Ready c.follower move attempt backend e)
    (made : c.follower.move? move = some g) :
    Books c.follower (c.follower.startOf? move) (launchedSince c.follower.counts.syncs g) g := by
  have opening := sound.ready ready
  obtain ⟨starts, attempts⟩ := attaching_standing ready made
  have noStarts : g.starts = [] := starts.trans opening.starts
  have ran : launchedSince c.follower.counts.syncs g = [] ∨
      launchedSince c.follower.counts.syncs g =
          [⟨c.follower.counts.syncs + 1, attempt, backend, false⟩] ∧
        g.counts.syncs = c.follower.counts.syncs + 1 := by
    rcases attaching_cases ready made with ⟨_, after⟩ | ⟨k, breaks, after⟩
    · exact Or.inr (launchedSince_attached opening after)
    · exact Or.inl (launchedSince_broken opening breaks after)
  -- Without waiting the kind is read off the configuration, after it off what waits.
  cases ready with
  | @started config backend e free built =>
    have fits : backend.kind = config.kind := yields_build _ config _ _ _ built
    have entered := built_build (c.follower.counts.startAttempts + 1) config
      (c.follower.entered config)
    rw [built] at entered
    have attempts : g.counts.startAttempts = c.follower.counts.startAttempts + 1 := by
      cases entered with
      | ready _ sync => exact attempts.trans sync.attempts
    rw [startOf?_free free]
    refine ⟨ran.imp_right fun ran => ?_, Or.inr ⟨_, rfl, attempts, by simp [noStarts]⟩⟩
    exact ⟨_, ran.1, rfl, Nat.le_of_eq ran.2.symm, Or.inl (by rw [fits])⟩
  | @resumed start backend e found built =>
    have kind : backend.kind = .rpc := yields_connected _ _ _ _ _ _ _ built
    have sync := (builds_connected start.attempt start.client start.address .ok).sameSync
      { c.follower with
        starts := c.follower.starts.filter (fun other => other.attempt != start.attempt) }
    rw [built] at sync
    have entry : c.follower.startOf? (.connection start.attempt .ok) = none := rfl
    rw [entry]
    refine ⟨ran.imp_right fun ran => ?_, Or.inl ⟨rfl, attempts.trans sync.attempts, ?_⟩⟩
    · refine ⟨_, ran.1, rfl, Nat.le_of_eq ran.2.symm, Or.inr ⟨rfl, kind, start, ?_, rfl⟩⟩
      exact List.mem_of_find?_eq_some found
    · simp [noStarts]

theorem books_starts (sound : c.Sound) {move : Move} (starts : Starts c.follower move g)
    (made : c.follower.move? move = some g) :
    Books c.follower (c.follower.startOf? move) (launchedSince c.follower.counts.syncs g) g := by
  cases starts with
  | nothing entry confined unstarted => exact entry ▸ unstarted.books
  | entered free confined runs attempts starts =>
    rw [startOf?_free free]
    exact ⟨Or.inl runs, Or.inr ⟨_, rfl, attempts, starts⟩⟩
  | ready ready => exact sound.books_ready ready made

/-- Every move does one thing for the books at most. -/
theorem books (sound : c.Sound) {move : Move} (made : c.follower.move? move = some g) :
    Books c.follower (c.follower.startOf? move) (launchedSince c.follower.counts.syncs g) g := by
  cases move with
  | step step =>
    cases step with
    | start config =>
      have starts := sound.start config
      cases made
      exact sound.books_starts starts rfl
    | _ => exact (sound.unstarted made nofun nofun).books
  | connection attempt reply => exact sound.books_starts (sound.connection made) made
  | _ => exact (sound.unstarted made nofun nofun).books

end Course.Sound

end ChainFollower

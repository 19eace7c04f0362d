import ChainFollower.Proofs.Marks
import ChainFollower.Proofs.Tokens

/-! Which tokens are cancelled, told from the stages of a run: what was under way when somebody called
for its cancellation or closed the wallet, what failed or was given up, and everything once a shutdown
was requested. -/
namespace ChainFollower

def Move.StopsSync : Move → Prop
  | step .cancelSync => True
  | step .closeWallet => True
  | step .shutdown => True
  | step (.start _) => True
  | step .abandonStart => True
  | connection _ _ => True
  | _ => False

def Move.StopsRescan : Move → Prop
  | step .cancelRescan => True
  | step .closeWallet => True
  | step .shutdown => True
  | consume _ => True
  | _ => False

namespace Stage

open Follower

def Calls (stage : Stage) : Token → Prop
  | .start _ => stage.move = .step .cancelSync ∨ Takes .cancelSync stage.before stage.after
  | .rescan _ => stage.move = .step .cancelRescan ∨ Takes .cancelRescan stage.before stage.after

/-- How things stand when listeners hear of the stage: they are told of the end of a run when its
backend was taken away, and of the end of a rescan while it still goes on. -/
def meanwhile (stage : Stage) : Token → Follower
  | .start _ => stage.after
  | .rescan _ => stage.before

def Cancels (stage : Stage) (token : Token) : Prop :=
  (stage.Calls token ∨ stage.move = .step .closeWallet) ∧
      (stage.meanwhile token).UnderWay token ∨
    stage.before.GivesUp stage.move token

end Stage

namespace Follower

namespace GivesUp

variable {f : Follower} {move : Move}

theorem eq_start {attempt : Nat} (gives : f.GivesUp move (.start attempt)) {other : Token}
    (also : f.GivesUp move other) : other = .start attempt := by
  generalize named : Token.start attempt = token at gives
  cases gives with
  | unbuilt config free stops =>
    cases also with
    | unbuilt => exact rfl
  | @unconnected start reply stop g pending stops =>
    generalize same : Move.connection start.attempt reply = again at also
    cases also with
    | unconnected => exact congrArg Token.start (Move.connection.inj same).1.symm
    | _ => contradiction
  | abandoned pending =>
    cases also with
    | abandoned again => rw [(List.cons.inj (pending.symm.trans again)).1]
  | failed => contradiction

theorem not_consume {attempt : Nat} (gives : f.GivesUp move (.start attempt)) (number : Nat) :
    move ≠ .consume number := by
  cases gives <;> exact nofun

theorem slot {attempt : Nat} (accounted : f.Accounted) (gives : f.GivesUp move (.rescan attempt)) :
    f.rescanSlot.token = some (.rescan attempt) := by
  cases gives with
  | failed member reading channel => exact congrArg RescanSlot.token (accounted.held member reading).1

end GivesUp

/-- The marks of a move are what the stage cancels, if no start fails in it. -/
theorem cancels_of_marks {f g : Follower} {move : Move} {sync rescan : Prop}
    (accounted : f.Accounted) (owned : g.Owned) (marks : Marks g.session.token sync rescan f g)
    (syncs : sync ↔ move = .step .cancelSync ∨ move = .step .closeWallet)
    (rescans : rescan ↔ (move = .step .cancelRescan ∨ move = .step .closeWallet) ∨
      ∃ attempt, f.GivesUp move (.rescan attempt))
    (starts : ∀ attempt, ¬ f.GivesUp move (.start attempt)) (token : Token) :
    token ∈ g.cancelled ↔ token ∈ f.cancelled ∨ Stage.Cancels ⟨f, move, g⟩ token := by
  rw [marks.cancelled, syncs, rescans]
  cases token with
  | start attempt =>
    have elsewhere := accounted.slot_rescans attempt
    simp only [Stage.Cancels, Stage.Calls, Stage.meanwhile, owned.held_iff, elsewhere, starts,
      false_and, or_false]
    grind
  | rescan attempt =>
    have elsewhere : g.session.token ≠ some (.rescan attempt) := by
      rw [show g.session.token = _ from owned]
      split <;> simp
    have alone : f.rescanSlot.token = some (.rescan attempt) →
        ∀ other, f.GivesUp move (.rescan other) → other = attempt := by
      intro held other gives
      have same := (gives.slot accounted).symm.trans held
      cases same
      rfl
    have held : f.GivesUp move (.rescan attempt) → f.rescanSlot.token = some (.rescan attempt) :=
      fun gives => gives.slot accounted
    simp only [Stage.Cancels, Stage.Calls, Stage.meanwhile, ← accounted.slot_iff, elsewhere,
      false_and, false_or]
    grind

/-- The marks of a start that fails are what the stage cancels. -/
theorem cancels_of_abort {f g : Follower} {move : Move} {attempt : Nat} (accounted : f.Accounted)
    (owned : g.Owned) (dropped : g.session.token = none)
    (marks : Marks (some (.start attempt)) True False f g)
    (gives : f.GivesUp move (.start attempt)) (token : Token) :
    token ∈ g.cancelled ↔ token ∈ f.cancelled ∨ Stage.Cancels ⟨f, move, g⟩ token := by
  have moves : move ≠ .step .cancelRescan ∧ move ≠ .step .closeWallet := by
    cases gives <;> exact ⟨nofun, nofun⟩
  rw [marks.cancelled]
  cases token with
  | start other =>
    have elsewhere := accounted.slot_rescans other
    have ended : ¬ g.UnderWay (.start other) := by
      rw [← owned.held_iff, dropped]
      nofun
    have one : f.GivesUp move (.start other) ↔ attempt = other :=
      ⟨fun also => (Token.start.inj (gives.eq_start also)).symm, fun same => same ▸ gives⟩
    simp [Stage.Cancels, Stage.meanwhile, elsewhere, ended, one]
  | rescan other =>
    have none : ¬ f.GivesUp move (.rescan other) := fun also => nomatch gives.eq_start also
    simp [Stage.Cancels, Stage.Calls, Stage.meanwhile, ← accounted.slot_iff, none, moves]
    grind

end Follower

namespace Stage

open Follower

/-- A stage that is no shutdown cancels the tokens that it is said to cancel, and no others. -/
structure Exact (stage : Stage) : Prop where
  shutdown : stage.after.shutdown = stage.before.shutdown
  cancelled : ∀ token, token ∈ stage.after.cancelled ↔
    token ∈ stage.before.cancelled ∨ stage.Cancels token

variable {c : Course} {move : Move} {g : Follower}

theorem exact_of_marks {sync rescan : Prop} (accounted : c.follower.Accounted) (owned : g.Owned)
    (marks : Marks g.session.token sync rescan c.follower g)
    (syncs : sync ↔ move = .step .cancelSync ∨ move = .step .closeWallet)
    (rescans : rescan ↔ (move = .step .cancelRescan ∨ move = .step .closeWallet) ∨
      ∃ attempt, c.follower.GivesUp move (.rescan attempt))
    (starts : ∀ attempt, ¬ c.follower.GivesUp move (.start attempt)) :
    Exact ⟨c.follower, move, g⟩ :=
  ⟨marks.shutdown, cancels_of_marks accounted owned marks syncs rescans starts⟩

theorem exact_start (accounted : c.follower.Accounted) (owned : g.Owned) {config : BackendConfig}
    {result : Except Stop Started} (came : (startSync config).run c.follower = (result, g)) :
    Exact ⟨c.follower, .step (.start config), g⟩ := by
  rcases marks_startSync came with ⟨marks, none⟩ | ⟨dropped, marks, gives⟩
  · exact exact_of_marks accounted owned marks (by simp) (by simp [none]) fun _ => none _
  · exact ⟨marks.shutdown, cancels_of_abort accounted owned dropped marks gives⟩

theorem exact_abandon (sound : c.Sound) (accounted : c.follower.Accounted)
    (owned : c.follower.abandonStart.1.Owned) :
    Exact ⟨c.follower, .step .abandonStart, c.follower.abandonStart.1⟩ := by
  cases starts : c.follower.starts with
  | nil =>
    have same : c.follower.abandonStart.1 = c.follower := by
      simp only [abandonStart, starts]
    have none (token : Token) : ¬ c.follower.GivesUp (.step .abandonStart) token := by
      intro gives
      cases gives with
      | abandoned pending => rw [starts] at pending; contradiction
    rw [same] at owned ⊢
    exact exact_of_marks accounted owned (Marks.of_kept _ rfl) (by simp) (by simp [none])
      fun _ => none _
  | cons start rest =>
    have member : start ∈ c.follower.starts := by simp [starts]
    obtain ⟨_, _, _, token, _⟩ := sound.pending member
    let taken := { c.follower with starts := rest }
    have ended : c.follower.abandonStart.1 = taken.abortStart.note (.startEnded .abandoned) := by
      simp only [abandonStart, starts, taken]
    have marks := marks_abortStart (Cancels.refl taken)
    have held : taken.session.token = some (.start start.attempt) := token
    have dropped : taken.abortStart.session.token = none :=
      congrArg (fun s => s.session.token) (abortStart_standing taken)
    rw [ended] at owned ⊢
    rw [held] at marks
    exact ⟨marks.shutdown, cancels_of_abort accounted owned dropped (marks.congr rfl rfl)
      (.abandoned starts)⟩

theorem exact_step (sound : c.Sound) (accounted : c.follower.Accounted) {step : Scenario.Step}
    (owned : (step.perform c.follower).2.Owned) (goesOn : step ≠ .shutdown) :
    Exact ⟨c.follower, .step step, (step.perform c.follower).2⟩ := by
  by_cases abandons : step = .abandonStart
  · subst abandons
    exact exact_abandon sound accounted owned
  · by_cases starts : ∃ config, step = .start config
    · obtain ⟨config, rfl⟩ := starts
      exact exact_start accounted owned rfl
    · have none (token : Token) : ¬ c.follower.GivesUp (.step step) token := by
        intro gives
        cases gives with
        | unbuilt config => exact starts ⟨config, rfl⟩
        | abandoned => exact abandons rfl
      have other : ∀ config, step ≠ .start config := fun config same => starts ⟨config, same⟩
      exact exact_of_marks accounted owned (marks_perform c.follower ⟨goesOn, abandons, other⟩)
        (by simp) (by simp [none]) fun _ => none _

theorem exact_runEnds (accounted : c.follower.Accounted) (owned : g.Owned) {run : RunLoop}
    {reply : Reply RunError} (ended : c.follower.finishRun run reply = g) :
    Exact ⟨c.follower, .runEnds run.number reply, g⟩ := by
  have goesOn (token : Token) : ¬ c.follower.GivesUp (.runEnds run.number reply) token := nofun
  have marks : Marks g.session.token False False c.follower g := by
    have returned (result : Option RunError)
        (ended : c.follower.finishRun run (RunError.reply result) = g) :
        Marks g.session.token False False c.follower g := by
      have dropped := (runReturned_finishRun c.follower run result).token
      rw [ended] at dropped
      rw [dropped, ← ended]
      exact marks_finishRun c.follower run result
    cases reply with
    | ok => exact returned none ended
    | error e => exact returned (some e) ended
    | panic text =>
      subst ended
      exact Marks.of_kept _ rfl
  exact exact_of_marks accounted owned marks (by simp) (by simp [goesOn]) fun _ => goesOn _

theorem exact_consume (accounted : c.follower.Accounted) (owned : g.Owned) {number : Nat}
    (turned : c.follower.rescanTurn consume number = some g) :
    Exact ⟨c.follower, .consume number, g⟩ := by
  obtain ⟨job, member, rfl, e, after, stepped, rfl⟩ := rescanTurn_cases turned
  have reading : job.reading = true := by
    unfold consume at stepped
    split at stepped
    · contradiction
    · rename_i goesOn
      simpa using goesOn
  have held := congrArg RescanSlot.token (accounted.held member reading).1
  obtain ⟨token, marks⟩ := marks_consume held stepped
  have fails : (∃ attempt, c.follower.GivesUp (.consume job.number) (.rescan attempt)) ↔
      ∃ e rest, job.channel = .failure e :: rest := by
    constructor
    · rintro ⟨attempt, gives⟩
      generalize named : Move.consume job.number = move at gives
      cases gives with
      | @failed other e rest inside _ channel =>
        have same := eq_of_number accounted.jobs.numbers member inside (Move.consume.inj named).symm
        exact ⟨e, rest, same ▸ channel⟩
    · rintro ⟨e, rest, channel⟩
      exact ⟨_, .failed member reading channel⟩
  rw [← token] at marks
  exact exact_of_marks accounted owned (marks.congr rfl rfl) (by simp) (by simp [fails])
    fun _ gives => gives.not_consume _ rfl

/-- Every move but a shutdown cancels what it is said to cancel. -/
theorem exact_move (sound : c.Sound) (accounted : c.follower.Accounted)
    (owned : c.follower.Owned) (made : c.follower.move? move = some g)
    (goesOn : move ≠ .step .shutdown) : Exact ⟨c.follower, move, g⟩ := by
  have after : g.Owned := owned.moved sound made
  have heeded (heeds : Heeds c.follower g) (syncs : move ≠ .step .cancelSync)
      (rescans : move ≠ .step .cancelRescan) (closes : move ≠ .step .closeWallet)
      (none : ∀ token, ¬ c.follower.GivesUp move token) : Exact ⟨c.follower, move, g⟩ :=
    exact_of_marks accounted after heeds.marks (by simp [syncs, closes])
      (by simp [rescans, closes, none]) fun _ => none _
  cases move with
  | step step =>
    cases made
    exact exact_step sound accounted after fun same => goesOn (congrArg Move.step same)
  | notice kind notification =>
    cases made
    have notified : Harmless False c.follower _ := .notify kind notification c.follower
    exact heeded (Cancels.of_harmless notified) nofun nofun nofun nofun
  | connection attempt reply =>
    obtain ⟨start, found, finished⟩ := Option.map_eq_some_iff.mp made
    have same : start.attempt = attempt := by simpa using List.find?_some found
    subst same
    obtain ⟨_, _, alone, token, _⟩ := sound.pending (List.mem_of_find?_eq_some found)
    rcases marks_finishStart alone token finished with ⟨marks, none⟩ | ⟨dropped, marks, gives⟩
    · exact exact_of_marks accounted after marks (by simp) (by simp [none]) fun _ => none _
    · exact ⟨marks.shutdown, cancels_of_abort accounted after dropped marks gives⟩
  | call number =>
    obtain ⟨run, _, called⟩ := Option.bind_eq_some_iff.mp made
    split at called
    · contradiction
    · cases called
      have notified : Harmless False c.follower _ := .callRun c.follower run
      exact heeded (Cancels.of_harmless notified) nofun nofun nofun nofun
  | runEnds number reply =>
    obtain ⟨run, found, ended⟩ := Option.bind_eq_some_iff.mp made
    have same : run.number = number := by simpa using List.find?_some found
    split at ended
    · cases same
      exact exact_runEnds accounted after (Option.some.inj ended)
    · contradiction
  | produce number =>
    obtain ⟨job, member, rfl, e, job', stepped, rfl⟩ :=
      rescanTurn_cases (made : c.follower.rescanTurn produce number = some g)
    exact heeded ((heeds_produce stepped).heed (Cancels.of_same rfl)) nofun nofun nofun nofun
  | consume number => exact exact_consume accounted after made

/-- What the stage cancels of the sync is the session of the latest start, and of the rescans the one
that goes on. What is done to the one of the two cancels nothing of the other, and what is cancelled
stays so. -/
structure Contained (stage : Stage) : Prop where
  kept : ∀ token, stage.before.isCancelled token = true → stage.after.isCancelled token = true
  latest : ∀ attempt, stage.Cancels (.start attempt) →
    attempt = stage.after.counts.startAttempts
  running : ∀ attempt, stage.Cancels (.rescan attempt) → stage.before.live = [attempt]
  syncs : ¬ stage.move.StopsSync → ¬ Takes .cancelSync stage.before stage.after → ∀ attempt,
    stage.after.isCancelled (.start attempt) = stage.before.isCancelled (.start attempt)
  rescans : ¬ stage.move.StopsRescan → ¬ Takes .cancelRescan stage.before stage.after →
    ∀ attempt, stage.after.isCancelled (.rescan attempt) = stage.before.isCancelled (.rescan attempt)

theorem isCancelled_eq_true {f : Follower} {token : Token} :
    f.isCancelled token = true ↔ f.shutdown = true ∨ token ∈ f.cancelled := by
  simp [isCancelled]

theorem shutdown_cancels_none (f : Follower) (token : Token) :
    ¬ Cancels ⟨f, .step .shutdown, f.requestShutdown⟩ token := by
  have none (action : Action) : ¬ Takes action f f.requestShutdown := Nat.lt_irrefl _
  rintro (⟨calls | closes, _⟩ | gives)
  · cases token <;> simp [Calls, none] at calls
  · simp at closes
  · cases gives

/-- What a move does to the tokens, whatever it is. -/
theorem tokens_move (sound : c.Sound) (accounted : c.follower.Accounted)
    (owned : c.follower.Owned) (made : c.follower.move? move = some g) :
    (g.shutdown = true ↔ c.follower.shutdown = true ∨ move = .step .shutdown) ∧
      ∀ token, token ∈ g.cancelled ↔
        token ∈ c.follower.cancelled ∨ Cancels ⟨c.follower, move, g⟩ token := by
  by_cases down : move = .step .shutdown
  · subst down
    cases made
    refine ⟨by simp [Scenario.Step.perform, requestShutdown], fun token => ?_⟩
    have none : ¬ Cancels ⟨c.follower, .step .shutdown, _⟩ token :=
      shutdown_cancels_none c.follower token
    exact (or_iff_left none).symm
  · have exact := exact_move sound accounted owned made down
    have same : g.shutdown = c.follower.shutdown := exact.shutdown
    exact ⟨by simp [same, down], exact.cancelled⟩

theorem isCancelled_move (sound : c.Sound) (accounted : c.follower.Accounted)
    (owned : c.follower.Owned) (made : c.follower.move? move = some g) (token : Token) :
    g.isCancelled token = true ↔ c.follower.isCancelled token = true ∨
      move = .step .shutdown ∨ Cancels ⟨c.follower, move, g⟩ token := by
  obtain ⟨shutdown, cancelled⟩ := tokens_move sound accounted owned made
  rw [isCancelled_eq_true, isCancelled_eq_true, shutdown, cancelled]
  grind

theorem attempts_resumed {f : Follower} {start : PendingStart} {reply : Reply ConnectError}
    {result : Except Stop Nat} (resume : ResumeComesTo start reply f (result, g)) :
    g.counts.startAttempts = f.counts.startAttempts := by
  cases resume with
  | @stopped stop h sync late =>
    exact (congrArg Standing.attempts (abortStart_standing h)).trans sync.attempts
  | @built backend h _ accepted sync launched =>
    cases launched with
    | @done e told =>
      have attached : e.counts.startAttempts = h.counts.startAttempts := told.attempts
      exact attached.trans sync.attempts
    | panicked breaks stays links => exact stays.attempts.trans sync.attempts

theorem attempts_started {f : Follower} {config : BackendConfig} {result : Except Stop Started}
    (free : f.startBarrier? = none) (start : StartComesTo config f (result, g)) :
    g.counts.startAttempts = f.counts.startAttempts + 1 := by
  have launches {attempt : Nat} {backend : Backend} {result : Except Stop Nat} {h : Follower}
      (launched : Launched attempt backend h (result, g)) :
      g.counts.startAttempts = h.counts.startAttempts := by
    cases launched with
    | done told => exact told.attempts
    | panicked breaks stays links => exact stays.attempts
  cases start with
  | barred bars => rw [free] at bars; contradiction
  | @stopped stop h _ sync late =>
    exact (congrArg Standing.attempts (abortStart_standing h)).trans sync.attempts
  | waiting client server _ sync => exact sync.attempts
  | launched _ sync launched => exact (launches launched).trans sync.attempts
  | panicked backend _ sync launched => exact (launches launched).trans sync.attempts

/-- A start that is given up is the latest. -/
theorem latest_given_up (sound : c.Sound) (owned : c.follower.Owned)
    (made : c.follower.move? move = some g) {attempt : Nat}
    (gives : c.follower.GivesUp move (.start attempt)) : attempt = g.counts.startAttempts := by
  have pending {start : PendingStart} (member : start ∈ c.follower.starts) :
      start.attempt = c.follower.counts.startAttempts := by
    obtain ⟨state, _, _, token, _⟩ := sound.pending member
    have same := (owned.token (by rw [state]; rfl)).symm.trans token
    exact (Token.start.inj (Option.some.inj same)).symm
  cases gives with
  | unbuilt config free stops =>
    cases made
    exact (attempts_started free (comesTo_startSync config c.follower)).symm
  | @unconnected start reply stop h member stops =>
    obtain ⟨other, found, rfl⟩ := Option.map_eq_some_iff.mp made
    have same : start = other := by
      have inside := List.mem_of_find?_eq_some found
      rw [(sound.pending member).2.2.1] at inside
      exact (List.mem_singleton.mp inside).symm
    subst same
    let taken := { c.follower with
      starts := c.follower.starts.filter (fun other => other.attempt != start.attempt) }
    have comes := comesTo_resumeStart start reply taken
    rw [finishStart_eq]
    dsimp only
    revert comes
    generalize (resumeStart start reply).run taken = resumed
    intro comes
    exact (pending member).trans (attempts_resumed comes).symm
  | @abandoned start rest starts =>
    cases made
    have standing := abortStart_standing { c.follower with starts := rest }
    have same : c.follower.abandonStart.1.counts.startAttempts =
        c.follower.counts.startAttempts := by
      simp only [abandonStart, starts]
      exact congrArg Standing.attempts standing
    exact (pending (by simp [starts])).trans same.symm

theorem contained_move (sound : c.Sound) (accounted : c.follower.Accounted)
    (owned : c.follower.Owned) (made : c.follower.move? move = some g) :
    Contained ⟨c.follower, move, g⟩ where
  kept token before := (isCancelled_move sound accounted owned made token).mpr (Or.inl before)
  latest := by
    rintro attempt (⟨_, _, same⟩ | gives)
    · exact same
    · exact latest_given_up sound owned made gives
  running := by
    intro attempt cancels
    have inside : attempt ∈ c.follower.live := by
      rcases cancels with ⟨_, goesOn⟩ | gives
      · exact goesOn
      · exact (accounted.slot_iff attempt).mp (gives.slot accounted)
    rcases accounted.slot with ⟨_, none⟩ | ⟨other, _, one⟩
    · simp [none] at inside
    · have same : attempt = other := by simpa [one] using inside
      rw [same]
      exact one
  syncs := by
    intro spares quiet attempt
    rw [Bool.eq_iff_iff, isCancelled_move sound accounted owned made]
    refine or_iff_left ?_
    rintro (down | (⟨(called | taken) | closes, _⟩ | gives))
    · exact spares (by simp only [down, Move.StopsSync])
    · have named : move = .step .cancelSync := called
      exact spares (by simp only [named, Move.StopsSync])
    · exact quiet taken
    · have named : move = .step .closeWallet := closes
      exact spares (by simp only [named, Move.StopsSync])
    · cases gives <;> exact spares trivial
  rescans := by
    intro spares quiet attempt
    rw [Bool.eq_iff_iff, isCancelled_move sound accounted owned made]
    refine or_iff_left ?_
    rintro (down | (⟨(called | taken) | closes, _⟩ | gives))
    · exact spares (by simp only [down, Move.StopsRescan])
    · have named : move = .step .cancelRescan := called
      exact spares (by simp only [named, Move.StopsRescan])
    · exact quiet taken
    · have named : move = .step .closeWallet := closes
      exact spares (by simp only [named, Move.StopsRescan])
    · cases gives
      exact spares trivial

end Stage

namespace Trail

variable {stages : List Stage} {f : Follower}

/-- A token is cancelled exactly if a shutdown was requested, or if in some stage what it was made for
was called off while it was under way, failed before its launch, was abandoned, or read an error; and
every stage cancels nothing but what it is aimed at. -/
theorem cancelled_exactly (trail : Trail stages f) :
    (∀ token, f.isCancelled token = true ↔
      ∃ stage ∈ stages, stage.move = .step .shutdown ∨ stage.Cancels token) ∧
      ∀ stage ∈ stages, stage.Contained := by
  constructor
  · intro token
    induction trail with
    | @setUp setup f accepted =>
      have fresh := Scenario.Setup.fresh accepted
      simp [Follower.isCancelled, fresh.shutdown, fresh.cancelled]
    | @move stages f g move before made ih =>
      obtain ⟨c, reached, rfl⟩ := before.reached
      rw [Stage.isCancelled_move reached.sound reached.accounted reached.owned made, ih,
        List.exists_mem_cons_iff, or_comm]
  · intro stage member
    obtain ⟨earlier, before, _, made⟩ := trail.stage member
    obtain ⟨c, reached, same⟩ := before.reached
    rcases stage with ⟨f, move, g⟩
    subst same
    exact Stage.contained_move reached.sound reached.accounted reached.owned made

/-- A listener that hears of an invalid peer calls off the start that is being made. The start goes
on, with its token cancelled; that of the next start is not. -/
theorem cancelled_exactly_by_listener :
    ∃ stages f, Trail stages f ∧ f.session = ⟨.running, some (.spv 1), some (.start 1)⟩ ∧
      (∃ stage ∈ stages, stage.move = .step .shutdown ∨ stage.Cancels (.start 1)) ∧
      ¬ ∃ stage ∈ stages, stage.move = .step .shutdown ∨ stage.Cancels (.start 2) := by
  have added := Trail.standard.move
    (rfl : Course.standard.follower.move?
      (.step (.addListener ⟨false, [⟨.syncError, .cancelSync⟩]⟩)) = some _)
  have started := added.move
    (rfl : Follower.move? _ (.step (.start (.spv ["bad host", "10.0.0.1"]))) = some _)
  have exactly := (cancelled_exactly started).1
  refine ⟨_, _, started, by decide +kernel, (exactly (.start 1)).mp (by decide +kernel), ?_⟩
  intro cancels
  have goesOn := (exactly (.start 2)).mpr cancels
  revert goesOn
  decide +kernel

end Trail

end ChainFollower

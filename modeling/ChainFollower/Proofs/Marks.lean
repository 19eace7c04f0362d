import ChainFollower.Proofs.Reactions
import ChainFollower.Proofs.Trail

/-! Which tokens each part of a move cancels: what it is there to cancel, the token of a start that
fails or is abandoned and of a rescan that fails, and what listeners cancel meanwhile. -/
namespace ChainFollower

def Scenario.Step.Minor : Step → Prop
  | start _ => False
  | abandonStart => False
  | closeWallet => False
  | cancelSync => False
  | cancelRescan => False
  | shutdown => False
  | addListener _ => False
  | startRescan => False
  | _ => True

namespace Follower

open Act

inductive GivesUp (f : Follower) : Move → Token → Prop where
  | unbuilt (config : BackendConfig) {stop : Stop} {g : Follower} (free : f.startBarrier? = none)
      (stops : (build (f.counts.startAttempts + 1) config).run (f.entered config) =
        (.error stop, g)) :
    GivesUp f (.step (.start config)) (.start (f.counts.startAttempts + 1))
  | unconnected {start : PendingStart} {reply : Reply ConnectError} {stop : Stop} {g : Follower}
      (pending : start ∈ f.starts)
      (stops : (connected start.attempt start.client start.address reply).run
        { f with starts := f.starts.filter (fun other => other.attempt != start.attempt) } =
        (.error stop, g)) : GivesUp f (.connection start.attempt reply) (.start start.attempt)
  | abandoned {start : PendingStart} {rest : List PendingStart}
      (pending : f.starts = start :: rest) :
    GivesUp f (.step .abandonStart) (.start start.attempt)
  | failed {job : RescanJob} {e : WalletError} {rest : List Report} (member : job ∈ f.rescans)
      (reading : job.reading = true) (channel : job.channel = .failure e :: rest) :
    GivesUp f (.consume job.number) (.rescan job.attempt)

namespace Marks

variable {held : Option Token} {sync rescan : Prop} {f f' g g' : Follower}

theorem congr (marks : Marks held sync rescan f g)
    (before : (f'.shutdown, f'.cancelled, f'.listeners, f'.rescanSlot) =
      (f.shutdown, f.cancelled, f.listeners, f.rescanSlot))
    (after : (g'.shutdown, g'.cancelled, g'.listeners) = (g.shutdown, g.cancelled, g.listeners)) :
    Marks held sync rescan f' g' := by
  simp only [Prod.mk.injEq] at before after
  obtain ⟨shutdown, cancelled, listeners, slot⟩ := before
  obtain ⟨shutdown', cancelled', listeners'⟩ := after
  have stock : f'.stock = f.stock := congrArg (List.flatMap Listener.actions) listeners
  have stock' : g'.stock = g.stock := congrArg (List.flatMap Listener.actions) listeners'
  refine ⟨by rw [shutdown', shutdown, marks.shutdown], fun token => ?_⟩
  rw [cancelled', cancelled, slot, Takes, Takes, stock, stock']
  exact marks.cancelled token

theorem of_iff (marks : Marks held sync rescan f g) {sync' rescan' : Prop} (syncs : sync ↔ sync')
    (rescans : rescan ↔ rescan') : Marks held sync' rescan' f g :=
  propext syncs ▸ propext rescans ▸ marks

/-- Nothing was cancelled, and no listener was told anything. -/
theorem of_kept (held : Option Token)
    (same : (g.shutdown, g.cancelled, g.listeners) = (f.shutdown, f.cancelled, f.listeners)) :
    Marks held False False f g := by
  refine congr ⟨rfl, fun token => ?_⟩ rfl same
  simp [Takes]

theorem addListener (held : Option Token) (f : Follower) (listener : Listener) :
    Marks held False False f (f.addListener listener) := by
  have grown (action : Action) : ¬ Takes action f (f.addListener listener) := by
    rw [Takes, stock_addListener, List.count_append]
    omega
  have kept : (f.addListener listener).cancelled = f.cancelled := rfl
  exact ⟨rfl, fun token => by simp [grown, kept]⟩

end Marks

theorem Cancels.marks {sync rescan : Prop} {f g : Follower} (cancels : Cancels sync rescan f g) :
    Marks g.session.token sync rescan f g :=
  cancels.session ▸ cancels.toMarks

/-- Aborting a start cancels its token. -/
theorem marks_abortStart {f g : Follower} (heeds : Heeds f g) :
    Marks f.session.token True False f g.abortStart :=
  (heeds.heeded (Cancels.cancelQuietly g)).toMarks.congr rfl rfl

/-- What the session lost in its detach is not cancelled by what follows. -/
theorem marks_detached {e g : Follower} (heeds : Heeds e.emptied g) : Marks none False False e g :=
  heeds.toMarks.congr rfl rfl

theorem heeds_detach (e : Follower) : Heeds e.emptied (detach.run e).2 := by
  let rest : Act Unit := do
    setWalletLink none
    setLoaderLink none
    Act.update (fun f => f.setState .idle)
  have harmless : Keeps (Harmless False) rest := by
    refine keeps_bind (.setWalletLink none) fun _ => keeps_bind (.setLoaderLink none) fun _ => ?_
    exact keeps_update fun f => .setState f .idle
  exact Cancels.of_harmless (harmless e.emptied)

theorem ending_kept (f : Follower) (backend : Backend) (result : Option RunError) :
    ((f.ending backend result).shutdown, (f.ending backend result).cancelled,
      (f.ending backend result).listeners, (f.ending backend result).rescanSlot) =
      (f.shutdown, f.cancelled, f.listeners, f.rescanSlot) := by
  unfold ending invalidateCache
  dsimp only
  split
  · split <;> rfl
  · rfl

theorem marks_finishRun (f : Follower) (run : RunLoop) (result : Option RunError) :
    Marks none False False f (f.finishRun run (RunError.reply result)) := by
  let e := (f.withoutRun run).ending run.backend result
  have detached := heeds_detach e
  have heeds : Heeds e.emptied (f.finishRun run (RunError.reply result)) := by
    rw [finishRun_eq]
    split
    · rename_i g came
      rw [came] at detached
      have told : Harmless False g _ := .reportEnd g run.backend.kind result
      exact (detached.heed (Cancels.of_harmless told)).heed (Cancels.note _ _)
    · rename_i came
      rw [came] at detached
      exact detached.heed (Cancels.note _ _)
    · rename_i came
      rw [came] at detached
      exact detached.heed (Cancels.note _ _)
  exact (marks_detached heeds).congr (ending_kept (f.withoutRun run) run.backend result).symm rfl

theorem heeds_entered {f g : Follower} (config : BackendConfig) {held : Option Token}
    {sync rescan : Prop} (marks : Marks held sync rescan (f.entered config) g) :
    Marks held sync rescan f g :=
  marks.congr rfl rfl

/-- A start that is not barred cancels its token if it fails, and else none. -/
theorem marks_startSync {config : BackendConfig} {f g : Follower} {result : Except Stop Started}
    (came : (startSync config).run f = (result, g)) :
    Marks g.session.token False False f g ∧
        (∀ token, ¬ GivesUp f (.step (.start config)) token) ∨
      g.session.token = none ∧ Marks (some (.start (f.counts.startAttempts + 1))) True False f g ∧
        GivesUp f (.step (.start config)) (.start (f.counts.startAttempts + 1)) := by
  rw [run_startSync] at came
  split at came
  · rename_i e bars
    cases came
    refine Or.inl ⟨Marks.of_kept _ rfl, fun token gives => ?_⟩
    cases gives with
    | unbuilt _ free => rw [bars] at free; contradiction
  · rename_i free
    have built := Cancels.of_harmless (Harmless.build (f.counts.startAttempts + 1) config (f.entered config))
    split at came
    · rename_i backend h building
      rw [building] at built
      have launched : Keeps (Harmless False)
          (Started.launched <$> launch (f.counts.startAttempts + 1) backend) :=
        keeps_map _ (.launch _ backend)
      have after := built.heed (Cancels.of_harmless (launched h))
      rw [came] at after
      refine Or.inl ⟨heeds_entered config after.marks, fun token gives => ?_⟩
      cases gives with
      | unbuilt _ _ stops => rw [building] at stops; cases congrArg Prod.fst stops
    · rename_i h building
      cases came
      rw [building] at built
      refine Or.inl ⟨heeds_entered config built.marks, fun token gives => ?_⟩
      cases gives with
      | unbuilt _ _ stops => rw [building] at stops; cases congrArg Prod.fst stops
    · rename_i stop h building
      cases came
      rw [building] at built
      have warned := built.heed (Cancels.of_sameTasksAndClient (SameTasksAndClient.warn h stop))
      refine Or.inr ⟨?_, heeds_entered config (marks_abortStart warned), .unbuilt config free building⟩
      exact congrArg (fun s => s.session.token) (abortStart_standing _)

/-- A start whose connection has a reply cancels its token if it cannot be launched, and else none. -/
theorem marks_finishStart {f g : Follower} {start : PendingStart} {reply : Reply ConnectError}
    (alone : f.starts = [start]) (held : f.session.token = some (.start start.attempt))
    (finished : f.finishStart start reply = g) :
    Marks g.session.token False False f g ∧
        (∀ token, ¬ GivesUp f (.connection start.attempt reply) token) ∨
      g.session.token = none ∧ Marks (some (.start start.attempt)) True False f g ∧
        GivesUp f (.connection start.attempt reply) (.start start.attempt) := by
  let rest := f.starts.filter (fun other => other.attempt != start.attempt)
  have building := builds_connected start.attempt start.client start.address reply
  have built := Cancels.of_dialled (building.keeps { f with starts := rest })
  rw [finishStart_eq] at finished
  dsimp only at finished
  rw [run_resumeStart] at finished
  split at finished
  · rename_i backend h came
    rw [came] at built
    have launching : Keeps (Harmless False) (launch start.attempt backend) := .launch _ backend
    have after := built.heed (Cancels.of_harmless (launching h))
    subst finished
    refine Or.inl ⟨after.marks.congr rfl rfl, fun token gives => ?_⟩
    generalize named : Move.connection start.attempt reply = move at gives
    cases gives with
    | @unconnected other _ _ _ pending stops =>
      have same : other = start := by simpa [alone] using pending
      cases same
      cases named
      rw [came] at stops
      cases congrArg Prod.fst stops
    | _ => contradiction
  · rename_i stop h came
    rw [came] at built
    subst finished
    have warned := built.heed (Cancels.of_sameTasksAndClient (SameTasksAndClient.warn h stop))
    refine Or.inr ⟨?_, ?_, .unconnected (by simp [alone]) came⟩
    · exact congrArg (fun s => s.session.token) (stopped_standing h stop)
    · rw [← held]
      exact (marks_abortStart warned).congr rfl rfl

theorem heeds_logProgress (f : Follower) (tracker : Tracker) (force : Bool) :
    Heeds f (f.logProgress tracker force).1 := by
  unfold logProgress
  dsimp only
  split
  · exact Cancels.log f _
  · exact Cancels.refl f

/-- A reader whose channel is closed tells everybody and then frees the slot. -/
theorem closeRescan_cases (f : Follower) (job : RescanJob) :
    ∃ e outcome, Heeds f e ∧
      (f.closeRescan job).1 = e.releaseRescan.note (.rescanEnded job.number outcome) := by
  unfold closeRescan
  dsimp only
  have summed := Cancels.log f (.rescanSummary job.tracker)
  split
  · exact ⟨_, _, summed.heed ((Cancels.log _ _).heed (Cancels.broadcast _ _)), rfl⟩
  · exact ⟨_, _, summed.heed ((heeds_logProgress _ _ _).heed (Cancels.broadcast _ _)), rfl⟩

/-- The reader cancels the token of its rescan if it takes out an error, and else none. -/
theorem marks_consume {f g : Follower} {job after : RescanJob}
    (held : f.rescanSlot.token = some (.rescan job.attempt))
    (stepped : f.consume job = some (g, after)) :
    g.session.token = f.session.token ∧
      Marks f.session.token False (∃ e rest, job.channel = .failure e :: rest) f g := by
  unfold consume at stepped
  split at stepped
  · contradiction
  · split at stepped
    · rename_i report rest channel
      obtain ⟨rfl, _⟩ := Prod.mk.inj (Option.some.inj stepped)
      cases report with
      | height h =>
        have told := (Cancels.broadcast f (.rescan h .progress)).heed
          (heeds_logProgress _ (job.tracker.record h) false)
        refine ⟨told.session, (told.of_iff Iff.rfl ?_).toMarks⟩
        simp [channel]
      | failure e =>
        have stopped : Cancels False True (f.log (.rescanFailed e))
          ((f.log (.rescanFailed e)).cancel (.rescan job.attempt)) := Cancels.cancelSlot held
        have told := ((Cancels.log f (.rescanFailed e)).heeded stopped).heed
          (Cancels.broadcast _ (.syncError .rescanFailed (.wallet e)))
        refine ⟨told.session, ((told.of_iff Iff.rfl ?_).toMarks).congr rfl rfl⟩
        simp [channel]
    · rename_i channel
      split at stepped
      · have ended : (f.closeRescan job).1 = g := congrArg Prod.fst (Option.some.inj stepped)
        obtain ⟨e, outcome, told, closed⟩ := closeRescan_cases f job
        rw [← ended, closed]
        refine ⟨told.session, ((told.of_iff Iff.rfl ?_).toMarks).congr rfl rfl⟩
        simp [channel]
      · contradiction

theorem heeds_produce {f g : Follower} {job after : RescanJob}
    (stepped : f.produce job = some (g, after)) : Heeds f g := by
  have called : Heeds f { f.saw (.rescan job.link) with lastRescan := some job.number } :=
    Cancels.of_same rfl
  unfold produce at stepped
  dsimp only at stepped
  repeat' split at stepped
  all_goals first
    | contradiction
    | exact (Prod.mk.inj (Option.some.inj stepped)).1 ▸ called
    | exact (Prod.mk.inj (Option.some.inj stepped)).1 ▸ Cancels.refl f

theorem marks_startRescan (held : Option Token) (f : Follower) :
    Marks held False False f f.startRescan.1 := by
  have call := comesTo_startRescan f
  generalize f.startRescan = called at call ⊢
  cases call <;> exact Marks.of_kept held rfl

theorem heeds_perform {step : Scenario.Step} (minor : step.Minor) (f : Follower) :
    Heeds f (step.perform f).2 := by
  by_cases spares : step.SparesTasks
  · exact Cancels.of_sameTasksAndClient (Scenario.Step.sameTasksAndClient_perform spares f)
  · cases step with
    | close =>
      have closing : Harmless False f _ := .close f
      exact Cancels.of_harmless closing
    | notify notification =>
      simp only [Scenario.Step.perform]
      split
      · exact Cancels.refl f
      · rename_i syncer _ _ _
        have notified : Harmless False f _ := .notify syncer.kind notification f
        exact Cancels.of_harmless notified
    | fail place fault =>
      simp only [Scenario.Step.perform, Scenario.Step.setFault]
      split <;> exact Cancels.of_same rfl
    | rescanFeed items ending =>
      simp only [Scenario.Step.perform, Scenario.Step.flagOf, Scenario.Step.feed]
      split <;> exact Cancels.of_same rfl
    | attach link => exact Cancels.of_same rfl
    | rescanScript script => exact Cancels.of_same rfl
    | cacheStore => exact Cancels.of_dialled (Scenario.Step.dialled_storeClient f)
    | cacheInvalidate => exact Cancels.of_dialled (Dialled.invalidateCache f)
    | start config => exact minor.elim
    | abandonStart => exact minor.elim
    | closeWallet => exact minor.elim
    | cancelSync => exact minor.elim
    | cancelRescan => exact minor.elim
    | shutdown => exact minor.elim
    | addListener listener => exact minor.elim
    | startRescan => exact minor.elim
    | _ => exact absurd ⟨trivial, id⟩ spares

/-- Steps that are no start and no shutdown cancel what they are there to cancel. -/
theorem marks_perform {step : Scenario.Step} (f : Follower)
    (other : step ≠ .shutdown ∧ step ≠ .abandonStart ∧ ∀ config, step ≠ .start config) :
    Marks (step.perform f).2.session.token (step = .cancelSync ∨ step = .closeWallet)
      (step = .cancelRescan ∨ step = .closeWallet) f (step.perform f).2 := by
  by_cases minor : step.Minor
  · refine (heeds_perform minor f).marks.of_iff ?_ ?_
    · cases step <;> simp_all [Scenario.Step.Minor]
    · cases step <;> simp_all [Scenario.Step.Minor]
  · cases step with
    | start config => exact absurd rfl (other.2.2 config)
    | abandonStart => exact absurd rfl other.2.1
    | shutdown => exact absurd rfl other.1
    | cancelSync => exact (Cancels.cancelSync f).marks.of_iff (by simp) (by simp)
    | cancelRescan => exact (Cancels.cancelRescan f).marks.of_iff (by simp) (by simp)
    | closeWallet =>
      have cancelled := (Cancels.cancelQuietly f).trans (Cancels.cancelRescan _)
      have closing : Harmless False f.cancelQuietly.cancelRescan _ := .close _
      exact (cancelled.heed (Cancels.of_harmless closing)).marks.of_iff (by simp) (by simp)
    | addListener listener => exact (Marks.addListener _ f listener).of_iff (by simp) (by simp)
    | startRescan => exact (marks_startRescan _ f).of_iff (by simp) (by simp)
    | _ => exact absurd trivial minor

end Follower

end ChainFollower

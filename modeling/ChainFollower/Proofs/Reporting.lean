import ChainFollower.Proofs.Course

/-! How the end of a sync is told: after the backend was taken away, to every listener once, and
with what the task of the run comes to. -/
namespace ChainFollower

def SyncOutcome.Reports : SyncOutcome → Option RunError → Prop
  | completed, none => True
  | canceled, some .canceled => True
  | errored code message, some e => e ≠ .canceled ∧ code = e.code ∧ message = e.message
  | _, _ => False

theorem SyncOutcome.reports_ofRun (result : Option RunError) : (ofRun result).Reports result := by
  rcases result with _ | _ | _ | text
  · trivial
  · trivial
  · exact ⟨nofun, rfl, rfl⟩
  · exact ⟨nofun, rfl, rfl⟩

/-- The run failed, by its deadline or otherwise; being cancelled is no failure. -/
def RunError.Fails (result : Option RunError) : Prop :=
  result = some .deadlineExceeded ∨ ∃ text, result = some (.other text)

theorem SyncOutcome.errored_iff (result : Option RunError) :
    (ofRun result).state = .errored ↔ RunError.Fails result := by
  rcases result with _ | _ | _ | text <;> simp [ofRun, state, RunError.Fails]

namespace Follower

theorem invalidateCache_cache (f : Follower) : f.invalidateCache.cache = none := by
  unfold invalidateCache
  dsimp only
  split <;> rfl

theorem invalidateCache_listeners (f : Follower) : f.invalidateCache.listeners = f.listeners := by
  unfold invalidateCache
  dsimp only
  split <;> rfl

theorem runDetached_listeners (f : Follower) (run : RunLoop) (result : Option RunError) :
    (f.runDetached run result).listeners = f.listeners := by
  unfold runDetached
  rw [detached_listeners]
  unfold ending
  dsimp only
  split
  · rw [invalidateCache_listeners]
    rfl
  · rfl

/-- The cache is emptied exactly if a client's run failed. -/
theorem runDetached_cache (f : Follower) (run : RunLoop) (result : Option RunError) :
    (RunError.Fails result ∧ run.backend.kind = .rpc → (f.runDetached run result).cache = none) ∧
      (¬ (RunError.Fails result ∧ run.backend.kind = .rpc) →
        (f.runDetached run result).cache = f.cache) := by
  unfold runDetached
  rw [detached_cache, ← SyncOutcome.errored_iff]
  unfold ending
  dsimp only
  split
  · rename_i failed
    exact ⟨fun _ => invalidateCache_cache _, fun other => absurd failed other⟩
  · rename_i other
    exact ⟨fun failed => absurd failed other, fun _ => rfl⟩

theorem Told.cache {sent : Event → Prop} {f g : Follower} (told : Told sent f g) :
    g.cache = f.cache := by
  obtain ⟨ls, ts, hs, rfl, _⟩ := told
  rfl

/-- The record of the client that is dropped, if one was kept and its run failed. -/
def dropped (f : Follower) (backend : Backend) (result : Option RunError) : List Happening :=
  if (SyncOutcome.ofRun result).state = .errored ∧ backend.kind = .rpc ∧ f.cache.isSome = true then
    [.logged .cacheInvalidated]
  else []

theorem ending_history (f : Follower) (backend : Backend) (result : Option RunError) :
    (f.ending backend result).history =
      f.dropped backend result ++ .stateSet (SyncOutcome.ofRun result).state :: f.history := by
  unfold ending dropped
  dsimp only
  split
  · rename_i failed
    unfold invalidateCache ClientCache.invalidate
    dsimp only
    rcases kept : f.cache with _ | client
    · simp [setState, note, kept, failed]
    · simp [setState, note, log, kept, failed]
  · rename_i other
    rw [if_neg fun failed => other ⟨failed.1, failed.2.1⟩]
    rfl

/-- `d` is `f` after a run came back with `result` and its backend was taken away. The history says
all that the end has done by then. -/
structure TakenAway (run : RunLoop) (result : Option RunError) (f d : Follower) : Prop where
  detached : detach.run ((f.withoutRun run).ending run.backend result) = (.ok (), d)
  session : d.session = ⟨.idle, none, none⟩
  walletLink : d.wallet.link = none
  loaderLink : d.loader.link = none
  listeners : d.listeners = f.listeners
  history : d.history =
    .stateSet .idle ::
    .saw (.loaderBackend none (SyncOutcome.ofRun result).state) ::
    .saw (.walletBackend none (SyncOutcome.ofRun result).state) ::
    (f.dropped run.backend result ++ .stateSet (SyncOutcome.ofRun result).state :: f.history)

theorem takenAway_runDetached {f : Follower} (hold : f.LinksHold) (run : RunLoop)
    (result : Option RunError) : TakenAway run result f (f.runDetached run result) := by
  let e := (f.withoutRun run).ending run.backend result
  have state : e.session.state = (SyncOutcome.ofRun result).state :=
    congrArg Session.state (Dialled.ending (f.withoutRun run) run.backend result).sameTasks.session
  have begun : e.history = f.dropped run.backend result ++
      .stateSet (SyncOutcome.ofRun result).state :: f.history :=
    ending_history (f.withoutRun run) run.backend result
  have taken := detached_history e
  rw [state, begun] at taken
  exact {
    detached := detach_ending f run result hold
    session := detached_session e
    walletLink := detached_wallet e
    loaderLink := detached_loader e
    listeners := runDetached_listeners f run result
    history := taken }

/-- Until the backend is taken away, nobody is told of anything. -/
theorem TakenAway.unheard {run : RunLoop} {result : Option RunError} {f d : Follower}
    (taken : TakenAway run result f d) : Without Happening.Heard f d := by
  let state := (SyncOutcome.ofRun result).state
  refine ⟨[.stateSet .idle, .saw (.loaderBackend none state), .saw (.walletBackend none state)] ++
    f.dropped run.backend result ++ [.stateSet state], ?_, ?_⟩
  · simp [taken.history, state]
  · unfold dropped
    split <;> simp [Happening.Heard]

/-- Telling of the end only adds what listeners hear and what is logged. -/
theorem reportEnd_history (f : Follower) (kind : BackendKind) (result : Option RunError) :
    ∃ telling, (f.reportEnd kind result).history = telling ++ f.history ∧
      ∀ happening ∈ telling, happening.Telling (fun _ => True) := by
  obtain ⟨_, _, telling, after, _, _, only⟩ := told_reportEnd f kind result
  exact ⟨telling, congrArg Follower.history after, only⟩

end Follower

namespace Course

structure Past (number : Nat) (f : Follower) : Prop where
  given : number ≤ f.counts.syncs
  gone : ∀ run ∈ f.runs, run.number ≠ number

theorem Past.moved {number : Nat} {f g : Follower} {move : Move} (past : Past number f)
    (made : f.move? move = some g) : Past number g := by
  have numbered := Follower.numbered_move made
  refine ⟨Nat.le_trans past.given numbered.syncs, fun run member => ?_⟩
  rcases numbered.runs run member with ⟨old, before, same⟩ | new
  · exact same ▸ past.gone old before
  · have given := past.given
    omega

theorem Past.ran {number : Nat} {allowed : Follower → Move → Follower → Prop} {c d : Course}
    (past : Past number c.follower) (ran : Ran allowed c d) : Past number d.follower := by
  induction ran with
  | start => exact past
  | move before made may ih => exact ih.moved made

theorem Past.no_move {number : Nat} {f : Follower} (past : Past number f) (reply : Reply RunError) :
    f.move? (.runEnds number reply) = none := by
  refine Option.bind_eq_none_iff.mpr fun run found => ?_
  have same : run.number = number := by simpa using List.find?_some found
  exact absurd same (past.gone run (List.mem_of_find?_eq_some found))

/-- A run that comes back is over for good. -/
theorem past_returned {c : Course} (sound : c.Sound) {run : RunLoop} {result : Option RunError}
    (member : run ∈ c.follower.runs) :
    Past run.number (c.follower.finishRun run (RunError.reply result)) := by
  have ended := Follower.runReturned_finishRun c.follower run result
  obtain ⟨_, _, _, _, runs, _, numbered⟩ := sound.running member
  have none : (c.follower.finishRun run (RunError.reply result)).runs = [] := by
    simpa [Follower.withoutRun, runs] using ended.runs
  exact ⟨Nat.le_trans numbered (Nat.le_of_eq ended.syncs.symm), by simp [none]⟩

theorem finishRun_of_move {c : Course} (sound : c.Sound) {run : RunLoop} {g : Follower}
    {reply : Reply RunError} (member : run ∈ c.follower.runs)
    (made : c.follower.move? (.runEnds run.number reply) = some g) :
    g = c.follower.finishRun run reply := by
  obtain ⟨_, _, _, _, runs, _, _⟩ := sound.running member
  obtain ⟨found, here, ended⟩ := Option.bind_eq_some_iff.mp made
  have inside := List.mem_of_find?_eq_some here
  have same : found = run := by simpa [runs] using inside
  subst same
  split at ended
  · exact (Option.some.inj ended).symm
  · contradiction

/-- What the end of a run that came back with `result` leads from `c` to `g`. -/
structure EndReported (c : Course) (run : RunLoop) (result : Option RunError) (g : Follower) :
    Prop where
  /-- The end is told by the follower whose backend was taken away: its slot is empty, wallet and
  loader have no backend and it is idle before anybody hears of the end. -/
  detached : ∃ d, Follower.TakenAway run result c.follower d ∧
    g = (d.reportEnd run.backend.kind result).note
      (.syncEnded run.number (SyncOutcome.ofRun result)) ∧
    ∃ telling, g.history =
        .syncEnded run.number (SyncOutcome.ofRun result) :: (telling ++ d.history) ∧
      ∀ happening ∈ telling, happening.Telling (fun _ => True)
  session : g.session = ⟨.idle, none, none⟩
  walletLink : g.wallet.link = none
  loaderLink : g.loader.link = none
  emptied : RunError.Fails result ∧ run.backend.kind = .rpc → g.cache = none
  kept : ¬ (RunError.Fails result ∧ run.backend.kind = .rpc) → g.cache = c.follower.cache
  /-- Who was registered heard of an error once, and nobody heard of another one. -/
  heard : ∀ position, (heardBy position g.history).filter Event.isError =
    (if c.follower.hears position then RunError.told result else []) ++
      (heardBy position c.follower.history).filter Event.isError
  outcome : (SyncOutcome.ofRun result).Reports result
  /-- The run does not come back again, whatever follows. -/
  once : ∀ e, Ran (fun _ _ _ => True) (c.next (.runEnds run.number (RunError.reply result)) g) e →
    ∀ reply, e.follower.move? (.runEnds run.number reply) = none

theorem EndReported.of_finishRun {c : Course} (sound : c.Sound) (hold : c.follower.LinksHold)
    {run : RunLoop} {result : Option RunError} (member : run ∈ c.follower.runs) :
    EndReported c run result (c.follower.finishRun run (RunError.reply result)) := by
  let f := c.follower
  -- The moment in which the backend is gone and nobody was told yet.
  let d := f.runDetached run result
  let h := d.reportEnd run.backend.kind result
  have same : f.finishRun run (RunError.reply result) =
      h.note (.syncEnded run.number (SyncOutcome.ofRun result)) :=
    Follower.finishRun_returned f run result hold
  have taken : Follower.TakenAway run result f d := Follower.takenAway_runDetached hold run result
  have told : Follower.Told (fun _ => True) d h := Follower.told_reportEnd d _ result
  obtain ⟨telling, grown, only⟩ := Follower.reportEnd_history d run.backend.kind result
  obtain ⟨emptied, kept⟩ := Follower.runDetached_cache f run result
  have past : Past run.number (f.finishRun run (RunError.reply result)) :=
    past_returned sound member
  rw [same] at past ⊢
  refine {
    detached := ⟨d, taken, rfl, telling, congrArg (List.cons _) grown, only⟩
    session := (congrArg Follower.Standing.session told.standing).trans taken.session
    walletLink := (congrArg Follower.Standing.walletLink told.standing).trans taken.walletLink
    loaderLink := (congrArg Follower.Standing.loaderLink told.standing).trans taken.loaderLink
    emptied := fun fails => told.cache.trans (emptied fails)
    kept := fun other => told.cache.trans (kept other)
    heard := ?_
    outcome := SyncOutcome.reports_ofRun result
    once := fun e later reply => (past.ran later).no_move reply }
  intro position
  have hears : d.hears position = f.hears position := by
    unfold Follower.hears
    rw [taken.listeners]
  have heard : (heardBy position h.history).filter Event.isError =
      (if d.hears position then RunError.told result else []) ++
        (heardBy position d.history).filter Event.isError :=
    Follower.heardBy_reportEnd d _ result position
  rw [hears, taken.unheard.heard_same] at heard
  exact heard

/-- The end of a run is told once to everybody, after its backend was taken away, and no other move
tells anybody of an end. -/
theorem run_end_reported {c : Course} (reached : c.Reached) (hold : c.follower.LinksHold)
    {run : RunLoop} {result : Option RunError} {g : Follower} (member : run ∈ c.follower.runs)
    (made : c.follower.move? (.runEnds run.number (RunError.reply result)) = some g) :
    EndReported c run result g ∧
      ∀ f move h, Follower.move? f move = some h → move.returned? = none → ∀ position,
        (heardBy position h.history).filter Event.endsSync =
          (heardBy position f.history).filter Event.endsSync := by
  have same := finishRun_of_move reached.sound member made
  refine ⟨?_, fun f move h made goesOn => (Follower.silent_move made goesOn).heard_ends⟩
  rw [same]
  exact EndReported.of_finishRun reached.sound hold member

/-- The standard follower with a client that is kept: its run passes the deadline, and the client is
dropped. -/
theorem run_end_reported_deadline :
    ∃ c run g, c.Reached ∧ c.follower.cache = some ⟨1⟩ ∧ run.backend = .rpc 1 ⟨1⟩ ∧
      EndReported c run (some .deadlineExceeded) g ∧ g.cache = none := by
  let server : BackendConfig := .rpc "server" "user" "password" none
  let run : RunLoop := ⟨1, 1, .rpc 1 ⟨1⟩, true⟩
  have kept : Ran (fun _ _ _ => True) standard _ :=
    .move .start (rfl : standard.follower.move? (.step .cacheStore) = some _) trivial
  have started : Ran (fun _ _ _ => True) standard _ :=
    .move kept (rfl : Follower.move? _ (.step (.start server)) = some _) trivial
  have called : Ran (fun _ _ _ => True) standard _ :=
    .move started (rfl : Follower.move? _ (.call 1) = some _) trivial
  have reached : Reached _ := ⟨standard, standard_initial, called⟩
  have told := @run_end_reported _ reached (Follower.Calm.of_none rfl).toLinksHold run
    (some .deadlineExceeded) _ (List.mem_singleton.mpr rfl) rfl
  exact ⟨_, run, _, reached, rfl, rfl, told.1, told.1.emptied ⟨Or.inl rfl, rfl⟩⟩

end Course

end ChainFollower

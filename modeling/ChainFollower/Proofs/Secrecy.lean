import ChainFollower.Proofs.Course
import ChainFollower.Proofs.Passphrases

/-! Two runs that differ in secrets only are told apart neither by the log nor by listeners, nor by
what calls return, nor by diagnostic forms. -/
namespace ChainFollower

open Act Follower

namespace Scenario

def Setup.redacted (setup : Setup) : Setup :=
  { setup with wallet := setup.wallet.redacted }

def Result.redacted : Result → Result
  | wiped value => wiped ⟨value.call, []⟩
  | result => result

namespace Step

def TakesSecret : Step → Prop
  | create _ _ => True
  | openWallet _ => True
  | unlock _ => True
  | changePrivate _ _ => True
  | changePublic _ _ => True
  | start _ => True
  | _ => False

/-- The steps differ in secrets only, where seeds may differ in this way. -/
inductive Alike (seeds : String → String → Prop) : Step → Step → Prop where
  | create (passphrase passphrase' : String) {seed seed' : String} (alike : seeds seed seed') :
    Alike seeds (create passphrase seed) (create passphrase' seed')
  | openWallet (publicPass publicPass' : Bytes) :
    Alike seeds (openWallet publicPass) (openWallet publicPass')
  | unlock (passphrase passphrase' : Bytes) : Alike seeds (unlock passphrase) (unlock passphrase')
  | changePrivate (old new old' new' : Bytes) :
    Alike seeds (changePrivate old new) (changePrivate old' new')
  | changePublic (old new old' new' : Bytes) :
    Alike seeds (changePublic old new) (changePublic old' new')
  | start {config config' : BackendConfig} (alike : config.redacted = config'.redacted) :
    Alike seeds (start config) (start config')
  | same {step : Step} (clear : ¬ step.TakesSecret) : Alike seeds step step

def answer? (f : Follower) : Step → Option (Except Stop (Except WalletError Unit))
  | openWallet publicPass => some ((Follower.openWallet publicPass).run f).1
  | unlock passphrase =>
    if f.loader.loaded then some ((unlockWallet passphrase).run f).1 else none
  | changePrivate old new =>
    if f.loader.loaded then some ((Follower.changePrivate old new).run f).1 else none
  | changePublic old new =>
    if f.loader.loaded then
      some ((Follower.changePublic (Passphrase.orInsecure old) (Passphrase.orInsecure new)).run f).1
    else none
  | _ => none

def Matches (came came' : Result × Follower) : Prop :=
  came.1.redacted = came'.1.redacted ∧ came.2.redacted = came'.2.redacted

section
variable {f g : Follower} {step : Step}

theorem matches_call {α : Type} {work other : Act α} (form : Except Stop α → Result)
    (alike : AlikeAt work other f g) : Matches (call form work f) (call form other g) :=
  ⟨congrArg (fun result => (form result).redacted) alike.1, alike.2⟩

theorem matches_wiping {work other : Act Unit} (buffers buffers' : List Bytes)
    (alike : AlikeAt work other f g) :
    Matches (.wiped (wiping buffers work f).1, (wiping buffers work f).2)
      (.wiped (wiping buffers' other g).1, (wiping buffers' other g).2) :=
  ⟨congrArg (fun result => Result.wiped ⟨result, []⟩) alike.1, alike.2⟩

/-- The step does the same with and without secrets. -/
theorem matches_clear (same : f.redacted = g.redacted)
    (clear : ∀ f : Follower,
      step.perform f.redacted = ((step.perform f).1, (step.perform f).2.redacted)) :
    Matches (step.perform f) (step.perform g) := by
  have both : ((step.perform f).1, (step.perform f).2.redacted) =
      ((step.perform g).1, (step.perform g).2.redacted) := by rw [← clear, ← clear, same]
  exact ⟨congrArg (fun came => came.1.redacted) both, congrArg Prod.snd both⟩

end

theorem redacted_lock (f : Follower) : f.lock.redacted = f.redacted.lock := by
  unfold Follower.lock
  have loaded : f.redacted.loader.loaded = f.loader.loaded := rfl
  have locked : f.redacted.wallet.locked = f.wallet.locked := rfl
  rw [loaded, locked]
  split <;> rfl

theorem matches_same {f g : Follower} (same : f.redacted = g.redacted) {step : Step}
    (clear : ¬ step.TakesSecret) : Matches (step.perform f) (step.perform g) := by
  cases step with
  | create => exact absurd trivial clear
  | openWallet => exact absurd trivial clear
  | unlock => exact absurd trivial clear
  | changePrivate => exact absurd trivial clear
  | changePublic => exact absurd trivial clear
  | start => exact absurd trivial clear
  | exists? => exact matches_call .flag (blind_exists? f g same)
  | lock => exact matches_clear same fun f => Prod.ext rfl (redacted_lock f).symm
  | close => exact matches_call .done (blind_close f g same)
  | closeWallet =>
    refine matches_call .done (blind_close _ _ ?_)
    rw [redacted_cancelRescan, redacted_cancelRescan, redacted_cancelQuietly,
      redacted_cancelQuietly, same]
  | indexAddress =>
    have bound := clear_eq indexBound (fun _ => rfl) same
    simp only [perform, bound]
    split
    · exact matches_call .address (blind_nextAddress f g same)
    · exact ⟨rfl, same⟩
  | abandonStart =>
    obtain ⟨left, given⟩ := redacted_abandonStart same
    exact ⟨congrArg (fun given => Result.flag (.ok given)) given, left⟩
  | cancelSync => exact matches_clear same fun f => Prod.ext rfl (redacted_cancelSync f).symm
  | cancelRescan => exact matches_clear same fun f => Prod.ext rfl (redacted_cancelRescan f).symm
  | bestTimestamp => exact matches_call .number (alike_map _ blind_bestTimestamp f g same)
  | cacheStore =>
    refine matches_clear same fun f => Prod.ext rfl ?_
    let number := f.counts.clients + 1
    let counted : Follower := { f with counts := { f.counts with clients := number } }
    exact (redacted_keepClient counted ⟨number⟩).symm
  | cacheInvalidate =>
    exact matches_clear same fun f => Prod.ext rfl (redacted_invalidateCache f).symm
  | startRescan =>
    refine matches_clear same fun f => ?_
    simp only [perform]
    rw [startRescan_redacted]
    rfl
  | notify notification =>
    refine matches_clear same fun f => ?_
    have syncers : f.redacted.syncers = f.syncers := rfl
    simp only [perform, syncers]
    cases f.syncers with
    | nil => rfl
    | cons made rest => exact Prod.ext rfl (redacted_notify made.1.kind notification f).symm
  | endRun reply =>
    refine matches_clear same fun f => ?_
    have syncers : f.redacted.syncers = f.syncers := rfl
    simp only [perform, flagOf, releaseRun, syncers]
    cases f.syncers <;> rfl
  | releaseConnect reply =>
    refine matches_clear same fun f => ?_
    have clients : f.redacted.clients = f.clients := rfl
    simp only [perform, flagOf, releaseClient, clients]
    cases f.clients <;> rfl
  | rescanFeed items ending =>
    refine matches_clear same fun f => ?_
    have last : f.redacted.lastRescan = f.lastRescan := rfl
    simp only [perform, flagOf, feed, last]
    cases f.lastRescan <;> rfl
  | fail place fault => exact matches_clear same fun f => by cases fault <;> rfl
  | _ => exact matches_clear same fun f => rfl

/-- Two steps that differ in secrets, where the wallet answers them alike. -/
theorem matches_alike {f g : Follower} (same : f.redacted = g.redacted) {step other : Step}
    (alike : step.Alike Seed.AlikeShown other) (answers : step.answer? f = other.answer? g) :
    Matches (step.perform f) (other.perform g) := by
  have loaded := clear_eq (fun f => f.loader.loaded) (fun _ => rfl) same
  cases alike with
  | create passphrase passphrase' alike =>
    exact matches_call .done (alike_create _ _ alike f g same)
  | openWallet publicPass publicPass' =>
    exact matches_call .done (alikeAt_openAll same (Option.some.inj answers))
  | unlock passphrase passphrase' =>
    simp only [perform, unlock_eq]
    refine matches_wiping _ _ (alikeAt_required same fun held => ?_)
    simp only [answer?, ← loaded, held, if_true, Option.some.injEq] at answers
    exact alikeAt_unlockWallet same answers
  | changePrivate old new old' new' =>
    simp only [perform, changePrivatePass, changePass_eq]
    refine matches_wiping _ _ (alikeAt_required same fun held => ?_)
    simp only [answer?, ← loaded, held, if_true, Option.some.injEq] at answers
    exact alikeAt_changePrivate same answers
  | changePublic old new old' new' =>
    simp only [perform, changePublicPass, changePass_eq]
    refine matches_wiping _ _ (alikeAt_required same fun held => ?_)
    simp only [answer?, ← loaded, held, if_true, Option.some.injEq] at answers
    exact alikeAt_changePublic same answers
  | @start config config' alike =>
    obtain ⟨result, f', g', came, came', left⟩ := (alike_startSync alike f g same).outcome
    have state := clear_eq (fun f => f.session.state) (fun _ => rfl) left
    simp only [perform, came, came']
    exact ⟨by rw [state], left⟩
  | same clear => exact matches_same same clear

end Step

end Scenario

/-- Two moves that differ in secrets only, and to which the wallet's answers are the same. -/
inductive Move.Alike (seeds : String → String → Prop) (f g : Follower) : Move → Move → Prop where
  | step {step other : Scenario.Step} (alike : step.Alike seeds other)
    (answers : step.answer? f = other.answer? g) : Alike seeds f g (.step step) (.step other)
  | task {move : Move} (task : ∀ step, move ≠ .step step) : Alike seeds f g move move

def Move.inspected? : Move → Option (String × String)
  | .step (.start config) => some (config.inspect, config.inspectLines)
  | _ => none

theorem Move.Alike.inspected {seeds : String → String → Prop} {f g : Follower} {move other : Move}
    (alike : move.Alike seeds f g other) : move.inspected? = other.inspected? := by
  cases alike with
  | step alike answers => cases alike with
    | @start config config' alike =>
      have line : config.inspect = config'.inspect := by
        rw [← config.inspect_redacted, alike, config'.inspect_redacted]
      have lines : config.inspectLines = config'.inspectLines := by
        rw [← config.inspectLines_redacted, alike, config'.inspectLines_redacted]
      exact congrArg some (Prod.ext line lines)
    | _ => rfl
  | task => rfl

namespace Follower

/-- Moves that are alike can be made from the same followers, and lead to the same ones, but for
secrets. -/
theorem redacted_move {f g : Follower} (same : f.redacted = g.redacted) {move other : Move}
    (alike : move.Alike Seed.AlikeShown f g other) :
    (f.move? move).map redacted = (g.move? other).map redacted := by
  cases alike with
  | step alike answers => exact congrArg some (Scenario.Step.matches_alike same alike answers).2
  | task task => cases move with
    | step step => exact absurd rfl (task step)
    | notice kind notification =>
      refine congrArg some ?_
      rw [redacted_notify, redacted_notify, same]
    | connection attempt reply =>
      have starts := clear_eq starts (fun _ => rfl) same
      simp only [move?, starts]
      cases g.starts.find? (fun start => start.attempt == attempt) with
      | none => rfl
      | some start => exact congrArg some (redacted_finishStart same start reply)
    | call number =>
      have runs := clear_eq runs (fun _ => rfl) same
      simp only [move?, runs]
      cases g.runs.find? (fun run => run.number == number) with
      | none => rfl
      | some run =>
        simp only [Option.bind_some]
        split
        · rfl
        · refine congrArg some ?_
          rw [redacted_callRun, redacted_callRun, same]
    | runEnds number reply =>
      have runs := clear_eq runs (fun _ => rfl) same
      simp only [move?, runs]
      cases g.runs.find? (fun run => run.number == number) with
      | none => rfl
      | some run =>
        simp only [Option.bind_some]
        split
        · exact congrArg some (redacted_finishRun same run reply)
        · rfl
    | produce number =>
      simp only [move?]
      rw [← rescanTurn_redacted _ produce_redacted, ← rescanTurn_redacted _ produce_redacted, same]
    | consume number =>
      simp only [move?]
      rw [← rescanTurn_redacted _ consume_redacted, ← rescanTurn_redacted _ consume_redacted, same]

def logs (f : Follower) : List (Level × Area × String) :=
  f.history.filterMap fun happening =>
    match happening with
    | .logged record => some record.shown
    | _ => none

def heard (f : Follower) : List (Nat × Event) :=
  f.history.filterMap fun happening =>
    match happening with
    | .heard listener event => some (listener, event)
    | _ => none

def ends (f : Follower) : List Happening :=
  f.history.filterMap fun happening =>
    match happening with
    | .startEnded outcome => some (.startEnded outcome)
    | .syncEnded number outcome => some (.syncEnded number outcome)
    | .rescanEnded number outcome => some (.rescanEnded number outcome)
    | _ => none

def inspected (f : Follower) : List (String × String) :=
  f.history.filterMap fun happening =>
    match happening with
    | .saw (.rpcClient params) => some (params.inspect, params.inspectLines)
    | _ => none

section
variable (f : Follower)

/-- What is taken from each happening alone, and is no secret. -/
theorem filterMap_redacted {α : Type} {shows : Happening → Option α}
    (clear : ∀ happening, shows happening.redacted = shows happening) :
    f.redacted.history.filterMap shows = f.history.filterMap shows := by
  have history : f.redacted.history = f.history.map Happening.redacted := rfl
  rw [history, List.filterMap_map]
  exact congrArg (List.filterMap · f.history) (funext clear)

theorem logs_redacted : f.redacted.logs = f.logs := by
  refine filterMap_redacted f fun happening => ?_
  cases happening with
  | logged record => exact congrArg some record.shown_redacted
  | _ => rfl

theorem heard_redacted : f.redacted.heard = f.heard := by
  refine filterMap_redacted f fun happening => ?_
  cases happening <;> rfl

theorem ends_redacted : f.redacted.ends = f.ends := by
  refine filterMap_redacted f fun happening => ?_
  cases happening <;> rfl

theorem inspected_redacted : f.redacted.inspected = f.inspected := by
  refine filterMap_redacted f fun happening => ?_
  cases happening with
  | saw sight => cases sight with
    | rpcClient params =>
      exact congrArg some (Prod.ext params.inspect_redacted params.inspectLines_redacted)
    | _ => rfl
  | _ => rfl

end

end Follower

structure Tape where
  follower : Follower
  moves : List Move
  returned : List Scenario.Result

namespace Tape

def next (tape : Tape) (move : Move) (g : Follower) : Tape where
  follower := g
  moves := move :: tape.moves
  returned :=
    match move with
    | .step step => (step.perform tape.follower).1 :: tape.returned
    | _ => tape.returned

def configs (tape : Tape) : List (String × String) :=
  tape.moves.filterMap Move.inspected?

end Tape

/-- Two runs of the same calls, to which collaborators answer alike, that differ in passwords, the
bytes of certificates, passphrases, and seeds, these in a given way. -/
inductive Twins (seeds : String → String → Prop) : Tape → Tape → Prop where
  | setUp {setup setup' : Scenario.Setup} {f g : Follower}
      (alike : setup.redacted = setup'.redacted) (accepted : setup.follower = .ok f)
      (accepted' : setup'.follower = .ok g) : Twins seeds ⟨f, [], []⟩ ⟨g, [], []⟩
  | move {s t : Tape} {move other : Move} {f g : Follower} (before : Twins seeds s t)
      (alike : move.Alike seeds s.follower t.follower other)
      (made : s.follower.move? move = some f) (made' : t.follower.move? other = some g) :
    Twins seeds (s.next move f) (t.next other g)

/-- Nothing tells the two runs apart that is logged, heard, returned or shown for diagnosis, and
neither can go on in a way in which the other cannot. -/
structure Undisclosed (s t : Tape) : Prop where
  logs : s.follower.logs = t.follower.logs
  heard : s.follower.heard = t.follower.heard
  returned : s.returned.map Scenario.Result.redacted = t.returned.map Scenario.Result.redacted
  ends : s.follower.ends = t.follower.ends
  configs : s.configs = t.configs
  inspected : s.follower.inspected = t.follower.inspected
  goesOn : ∀ {move other : Move}, move.Alike Seed.AlikeShown s.follower t.follower other →
    (s.follower.move? move).isSome = (t.follower.move? other).isSome

theorem Scenario.Setup.redacted_follower {setup setup' : Setup} {f g : Follower}
    (alike : setup.redacted = setup'.redacted) (accepted : setup.follower = .ok f)
    (accepted' : setup'.follower = .ok g) : f.redacted = g.redacted := by
  obtain ⟨config, listeners, loader, wallet, scripts, faults⟩ := setup
  obtain ⟨config', listeners', loader', wallet', scripts', faults'⟩ := setup'
  obtain ⟨rfl, rfl, rfl, wallets, rfl, rfl⟩ := Setup.mk.inj alike
  have wallets : wallet.redacted = wallet'.redacted := wallets
  unfold follower at accepted accepted'
  split at accepted
  · contradiction
  · rename_i fine
    have fine : config.problem? = none := fine
    simp only [fine] at accepted'
    rw [← Except.ok.inj accepted, ← Except.ok.inj accepted']
    simp only [Follower.redacted, wallets]

namespace Twins

variable {seeds : String → String → Prop} {s t : Tape}

theorem redacted (twins : Twins Seed.AlikeShown s t) :
    s.follower.redacted = t.follower.redacted := by
  induction twins with
  | setUp alike accepted accepted' =>
    exact Scenario.Setup.redacted_follower alike accepted accepted'
  | move before alike made made' ih =>
    have left := redacted_move ih alike
    rw [made, made'] at left
    exact Option.some.inj left

theorem returned (twins : Twins Seed.AlikeShown s t) :
    s.returned.map Scenario.Result.redacted = t.returned.map Scenario.Result.redacted := by
  induction twins with
  | setUp => rfl
  | @move s t taken other f g before alike made made' ih => cases alike with
    | step alike answers =>
      have both := Scenario.Step.matches_alike before.redacted alike answers
      exact List.cons_eq_cons.mpr ⟨both.1, ih⟩
    | task task => cases taken with
      | step step => exact absurd rfl (task step)
      | _ => exact ih

theorem configs (twins : Twins seeds s t) : s.configs = t.configs := by
  induction twins with
  | setUp => rfl
  | @move s t taken other f g before alike made made' ih =>
    have both : s.moves.filterMap Move.inspected? = t.moves.filterMap Move.inspected? := ih
    have shown := alike.inspected
    exact (by rw [List.filterMap_cons, List.filterMap_cons, shown, both] :
      (taken :: s.moves).filterMap Move.inspected? = (other :: t.moves).filterMap Move.inspected?)

/-- No secret reaches the log, the listeners, what calls return or a diagnostic form. -/
theorem undisclosed (twins : Twins Seed.AlikeShown s t) : Undisclosed s t where
  logs := by rw [← logs_redacted, twins.redacted, logs_redacted]
  heard := by rw [← heard_redacted, twins.redacted, heard_redacted]
  returned := twins.returned
  ends := by rw [← ends_redacted, twins.redacted, ends_redacted]
  configs := twins.configs
  inspected := by rw [← inspected_redacted, twins.redacted, inspected_redacted]
  goesOn := fun alike => by
    have both := congrArg Option.isSome (redacted_move twins.redacted alike)
    rwa [Option.isSome_map, Option.isSome_map] at both

def keyed (privatePass : Bytes) : Scenario.Setup :=
  { Scenario.Setup.standard with
    wallet := { Scenario.Setup.standard.wallet with privatePass := privatePass } }

/-- Wallets with different passphrases are unlocked, and synced with a server by different passwords
and certificates. -/
theorem undisclosed_keyed : ∃ s t : Tape, Twins Seed.AlikeShown s t ∧ Undisclosed s t ∧
    s.follower.wallet.privatePass ≠ t.follower.wallet.privatePass ∧
    s.follower.inspected.length = 1 := by
  have keys : (keyed [1]).redacted = (keyed [2, 3]).redacted := rfl
  have fresh : Twins Seed.AlikeShown ⟨(keyed [1]).follower.toOption.get rfl, [], []⟩
    ⟨(keyed [2, 3]).follower.toOption.get rfl, [], []⟩ := .setUp keys rfl rfl
  have unlocked := fresh.move (.step (.unlock [1] [2, 3]) rfl) rfl rfl
  let config (password : String) (certificate : Bytes) : BackendConfig :=
    .rpc "127.0.0.1" "user" password (some certificate)
  have configs : (config "pass" [1, 2]).redacted = (config "word" [3, 4]).redacted := rfl
  have started := unlocked.move (.step (.start configs) rfl) rfl rfl
  refine ⟨_, _, started, started.undisclosed, ?_, ?_⟩
  all_goals decide +kernel

/-- An empty seed and a blank one fail with the same error, and the log tells them apart. -/
theorem blank_seed_logged : ∃ s t : Tape, Twins Seed.Alike s t ∧
    s.follower.logs ≠ t.follower.logs := by
  have alike : Seed.Alike "" " " := Or.inr ⟨.empty, .empty, rfl, rfl, rfl⟩
  have same : Scenario.Setup.standard.redacted = Scenario.Setup.standard.redacted := rfl
  have fresh : Twins Seed.Alike ⟨Course.standard.follower, [], []⟩
    ⟨Course.standard.follower, [], []⟩ := .setUp same rfl rfl
  have made := fresh.move (.step (.create "a" "a" alike) rfl) rfl rfl
  exact ⟨_, _, made, by decide +kernel⟩

end Twins

end ChainFollower

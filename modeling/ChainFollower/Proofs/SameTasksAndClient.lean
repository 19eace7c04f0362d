import ChainFollower.Follower.Schedule
import ChainFollower.Proofs.Lending
import ChainFollower.Proofs.SameTasks

/-! Making, opening and unlocking the wallet, its passphrases and addresses and its tip leave sync
and rescans alone, and the client that is kept; rescans leave the sync and that client alone. -/
namespace ChainFollower

def Sight.Plain : Sight → Prop
  | walletBackend _ _ => False
  | loaderBackend _ _ => False
  | rpcClient _ => False
  | connect _ _ => False
  | _ => True

theorem Sight.Plain.sparesSync {sight : Sight} (plain : sight.Plain) :
    (Happening.saw sight).SparesSync := by
  cases sight with
  | walletBackend link state => exact plain.elim
  | loaderBackend link state => exact plain.elim
  | _ => trivial

def Sight.Mild : Sight → Prop
  | indexClose _ => False
  | sight => sight.Plain

theorem Sight.Mild.plain {sight : Sight} (mild : sight.Mild) : sight.Plain := by
  cases sight with
  | indexClose number => exact mild.elim
  | _ => exact mild

/-- A call of the wallet, its loader or its index that gives or takes no link and closes no index. -/
def Sight.Domestic : Sight → Prop
  | create _ _ _ => True
  | openWallet _ => True
  | unload => True
  | lock => True
  | unlock _ => True
  | changePrivate _ _ => True
  | changePublic _ _ => True
  | blockInfo _ => True
  | indexInit _ => True
  | indexAddress _ _ => True
  | _ => False

theorem Sight.Domestic.mild {sight : Sight} (domestic : sight.Domestic) : sight.Mild := by
  cases sight <;> trivial

def Event.TellsScan : Event → Prop
  | rescan _ _ => True
  | syncError .rescanFailed _ => True
  | _ => False

theorem Event.TellsScan.goesOn {event : Event} (scan : event.TellsScan) :
    event.endsSync = false := by
  unfold Event.TellsScan at scan
  split at scan
  · rfl
  · rfl
  · exact scan.elim

namespace Follower

/-- What opening a wallet depends on and leaves: whether one is loaded, its public passphrase, the
index that is held, and how many there have been. -/
structure Vault where
  loaded : Bool
  publicPass : Bytes
  index : Option Nat
  indexes : Nat

def vault (f : Follower) : Vault :=
  ⟨f.loader.loaded, f.wallet.publicPass, f.index, f.counts.indexes⟩

/-- `g` comes from `f` by work that leaves sync, rescans and the kept client as they are: calls,
records, events that end no sync, and changes of what none of the three depends on. -/
inductive SameTasksAndClient : Follower → Follower → Prop where
  | same {f g : Follower}
      (rest : (g.standing, g.scanning, g.listeners, g.cancelled, g.shutdown, g.cache, g.history) =
        (f.standing, f.scanning, f.listeners, f.cancelled, f.shutdown, f.cache, f.history)) :
    SameTasksAndClient f g
  | log (f : Follower) (record : LogRecord) : SameTasksAndClient f (f.log record)
  | saw (f : Follower) {sight : Sight} (plain : sight.Plain) : SameTasksAndClient f (f.saw sight)
  | broadcast (f : Follower) {event : Event} (goesOn : event.endsSync = false) :
    SameTasksAndClient f (f.broadcast event)
  | trans {f g h : Follower} (first : SameTasksAndClient f g) (second : SameTasksAndClient g h) :
    SameTasksAndClient f h

namespace SameTasksAndClient

variable {f g : Follower}

theorem refl (f : Follower) : SameTasksAndClient f f := same rfl

instance : Std.Refl SameTasksAndClient := ⟨refl⟩

instance : IsTrans Follower SameTasksAndClient := ⟨fun _ _ _ => trans⟩

theorem sameTasks (spared : SameTasksAndClient f g) : SameTasks f g := by
  induction spared with
  | @same f g rest =>
    refine SameTasks.of_same ?_
    simp only [Prod.mk.injEq] at rest ⊢
    exact ⟨rest.1, rest.2.1, rest.2.2.1, rest.2.2.2.1, rest.2.2.2.2.1, rest.2.2.2.2.2.2⟩
  | log f record => exact SameTasks.log f record
  | saw f plain => exact SameTasks.saw f _ plain.sparesSync
  | broadcast f goesOn => exact SameTasks.broadcast f goesOn
  | trans _ _ first second => exact first.trans second

theorem sameSync (spared : SameTasksAndClient f g) : SameSync f g := spared.sameTasks.toSameSync

end SameTasksAndClient

/-- Besides, the work only calls the wallet, its loader and its index: nothing is sent and no index is
closed. No wallet or index comes or goes and no public passphrase changes unless it `opens`. -/
inductive CallsOnly (opens : Prop) : Follower → Follower → Prop where
  | same {f g : Follower}
      (rest : (g.standing, g.scanning, g.listeners, g.cancelled, g.shutdown, g.cache, g.vault,
        g.counts.spvSyncers, g.history) = (f.standing, f.scanning, f.listeners, f.cancelled,
        f.shutdown, f.cache, f.vault, f.counts.spvSyncers, f.history)) : CallsOnly opens f g
  | opened {f g : Follower} (may : opens)
      (rest : (g.standing, g.scanning, g.listeners, g.cancelled, g.shutdown, g.cache,
        g.counts.spvSyncers, g.history) = (f.standing, f.scanning, f.listeners, f.cancelled,
        f.shutdown, f.cache, f.counts.spvSyncers, f.history)) : CallsOnly opens f g
  | log (f : Follower) (record : LogRecord) : CallsOnly opens f (f.log record)
  | saw (f : Follower) {sight : Sight} (domestic : sight.Domestic) : CallsOnly opens f (f.saw sight)
  | trans {f g h : Follower} (first : CallsOnly opens f g) (second : CallsOnly opens g h) :
    CallsOnly opens f h

namespace CallsOnly

open Act

variable {opens : Prop} {f g : Follower}

theorem refl (f : Follower) : CallsOnly opens f f := same rfl

instance : Std.Refl (CallsOnly opens) := ⟨refl⟩

instance : IsTrans Follower (CallsOnly opens) := ⟨fun _ _ _ => trans⟩

theorem noteSight (sight : Sight) (domestic : sight.Domestic) :
    Keeps (CallsOnly opens) (Act.update fun f => f.saw sight) :=
  keeps_update fun f => saw f domestic

theorem noteRecord (record : LogRecord) :
    Keeps (CallsOnly opens) (Act.update fun f => f.log record) :=
  keeps_update fun f => log f record

section
variable {α : Type}

theorem call (place : Place) {sight : Sight} (domestic : sight.Domestic)
    {next : Act (Except WalletError α)} (h : Keeps (CallsOnly opens) next) :
    Keeps (CallsOnly opens) (do
      Act.update (fun f => f.saw sight)
      match ← Act.fault place with
      | some e => pure (.error e)
      | none => next) :=
  keeps_call (fun f => saw f domestic) place h

theorem orFail (result : Except WalletError α) : Keeps (CallsOnly opens) (Follower.orFail result) :=
  keeps_orFail result

end

theorem walletExists : Keeps (CallsOnly False) Follower.walletExists :=
  keeps_orError .walletExists (keeps_bind keeps_get fun _ => keeps_pure _)

theorem createWallet (publicPass privatePass seed : Bytes) :
    Keeps (CallsOnly True) (Follower.createWallet publicPass privatePass seed) :=
  call .create (by trivial) (keeps_orChange fun _ => opened trivial rfl)

theorem openWallet (publicPass : Bytes) :
    Keeps (CallsOnly True) (Follower.openWallet publicPass) := by
  refine call .openWallet (by trivial) (keeps_bind keeps_get fun f => ?_)
  split
  · exact keeps_pure _
  · split
    · exact keeps_pure _
    · exact keeps_bind (keeps_update fun f => opened trivial rfl) fun _ => keeps_pure _

theorem unloadWallet : Keeps (CallsOnly True) Follower.unloadWallet := by
  refine call .unload (by trivial) ?_
  exact keeps_bind (keeps_update fun f => opened trivial rfl) fun _ => keeps_pure _

theorem unlockWallet (passphrase : Bytes) :
    Keeps (CallsOnly False) (Follower.unlockWallet passphrase) :=
  call .unlock (by trivial) (keeps_orChange fun _ => same rfl)

theorem changePrivate (old new : Bytes) :
    Keeps (CallsOnly False) (Follower.changePrivate old new) :=
  call .changePrivate (by trivial) (keeps_orChange fun _ => same rfl)

theorem changePublic (old new : Bytes) : Keeps (CallsOnly True) (Follower.changePublic old new) :=
  call .changePublic (by trivial) (keeps_orChange fun _ => opened trivial rfl)

theorem blockInfo (height : Height) : Keeps (CallsOnly False) (Follower.blockInfo height) := by
  refine call .blockInfo (by trivial) (keeps_bind keeps_get fun f => ?_)
  split <;> exact keeps_pure _

theorem nextAddress : Keeps (CallsOnly opens) Follower.nextAddress := by
  refine keeps_orError .nextAddress (keeps_bind keeps_get fun f => ?_)
  exact keeps_bind (keeps_update fun f => same rfl) fun _ => keeps_pure _

theorem initIndex (path : String) : Keeps (CallsOnly True) (Follower.initIndex path) := by
  refine call .indexInit (by trivial) (keeps_bind nextAddress fun result => ?_)
  cases result with
  | error e => exact keeps_pure _
  | ok address =>
    refine keeps_bind (noteSight _ trivial) fun _ => keeps_bind keeps_get fun f => ?_
    exact keeps_bind (keeps_update fun f => opened trivial rfl) fun _ => keeps_pure _

theorem exists? : Keeps (CallsOnly False) Follower.exists? :=
  keeps_bind walletExists orFail

theorem create (passphrase seed : String) :
    Keeps (CallsOnly True) (Follower.create passphrase seed) := by
  unfold Follower.create
  refine keeps_bind (noteRecord _) fun _ => ?_
  split
  · exact keeps_fail _
  · split
    · exact keeps_bind (noteRecord _) fun _ => keeps_fail _
    · refine keeps_bind (createWallet _ _ _) fun result => ?_
      cases result with
      | error e => exact keeps_bind (noteRecord _) fun _ => keeps_fail _
      | ok value => exact noteRecord _

theorem openAll (publicPass : Bytes) : Keeps (CallsOnly True) (Follower.openAll publicPass) := by
  refine keeps_bind (openWallet publicPass) fun result => ?_
  cases result with
  | error e => exact keeps_bind (noteRecord _) fun _ => keeps_fail _
  | ok value =>
    refine keeps_bind keeps_get fun f => ?_
    refine keeps_bind (initIndex _) fun index => ?_
    cases index with
    | error e => exact keeps_bind (noteRecord _) fun _ => keeps_fail _
    | ok number =>
      exact keeps_bind (keeps_update fun f => opened trivial rfl) fun _ => noteRecord _

theorem unlock (passphrase : Bytes) (f : Follower) : CallsOnly False f (f.unlock passphrase).2 := by
  rw [unlock_eq]
  exact keeps_required (unlockWallet passphrase) f

theorem changePrivatePass (old new : Bytes) (f : Follower) :
    CallsOnly False f (f.changePrivatePass old new).2 :=
  related_changePass changePrivate old new f

theorem changePublicPass (old new : Bytes) (f : Follower) :
    CallsOnly True f (f.changePublicPass old new).2 :=
  related_changePass (fun _ _ => changePublic _ _) old new f

theorem lock (f : Follower) : CallsOnly False f f.lock := by
  unfold Follower.lock
  split
  · let g := f.saw .lock
    have locked : CallsOnly False g { g with wallet := { g.wallet with locked := true } } := same rfl
    have called : CallsOnly False f g := saw f trivial
    exact called.trans (locked.trans (log _ .locked))
  · exact refl f

theorem bestTimestamp : Keeps (CallsOnly False) Follower.bestTimestamp := by
  refine keeps_bind keeps_get fun f => ?_
  split
  · refine keeps_bind (blockInfo _) fun result => ?_
    cases result with
    | error e => exact keeps_bind (noteRecord _) fun _ => keeps_pure _
    | ok block => exact keeps_bind (noteRecord _) fun _ => keeps_pure _
  · exact keeps_pure _

end CallsOnly

/-- Sync, rescans and the kept client are the same, nothing is sent but complaints about addresses of
peers, and no index is closed. No wallet or index comes or goes and no public passphrase changes
unless the work `opens`. -/
inductive ComplainsOnly (opens : Prop) : Follower → Follower → Prop where
  | same {f g : Follower}
      (rest : (g.standing, g.scanning, g.listeners, g.cancelled, g.shutdown, g.cache, g.vault,
        g.history) = (f.standing, f.scanning, f.listeners, f.cancelled, f.shutdown, f.cache,
        f.vault, f.history)) : ComplainsOnly opens f g
  | opened {f g : Follower} (may : opens)
      (rest : (g.standing, g.scanning, g.listeners, g.cancelled, g.shutdown, g.cache, g.history) =
        (f.standing, f.scanning, f.listeners, f.cancelled, f.shutdown, f.cache, f.history)) :
    ComplainsOnly opens f g
  | log (f : Follower) (record : LogRecord) : ComplainsOnly opens f (f.log record)
  | saw (f : Follower) {sight : Sight} (mild : sight.Mild) : ComplainsOnly opens f (f.saw sight)
  | complains (f : Follower) (e : AddressError) :
    ComplainsOnly opens f (f.broadcast (.syncError .invalidPeerAddress (.address e)))
  | trans {f g h : Follower} (first : ComplainsOnly opens f g) (second : ComplainsOnly opens g h) :
    ComplainsOnly opens f h

namespace ComplainsOnly

open Act

variable {opens : Prop} {f g : Follower}

theorem refl (f : Follower) : ComplainsOnly opens f f := same rfl

instance : Std.Refl (ComplainsOnly opens) := ⟨refl⟩

instance : IsTrans Follower (ComplainsOnly opens) := ⟨fun _ _ _ => trans⟩

theorem sameTasksAndClient (complains : ComplainsOnly opens f g) : SameTasksAndClient f g := by
  induction complains with
  | @same f g rest =>
    refine SameTasksAndClient.same ?_
    simp only [Prod.mk.injEq] at rest ⊢
    obtain ⟨standing, scanning, listeners, cancelled, shutdown, cache, _, history⟩ := rest
    exact ⟨standing, scanning, listeners, cancelled, shutdown, cache, history⟩
  | opened may rest => exact SameTasksAndClient.same rest
  | log f record => exact SameTasksAndClient.log f record
  | saw f mild => exact SameTasksAndClient.saw f mild.plain
  | complains f e => exact SameTasksAndClient.broadcast f rfl
  | trans _ _ first second => exact first.trans second

theorem opening (complains : ComplainsOnly False f g) : ComplainsOnly opens f g := by
  induction complains with
  | same rest => exact same rest
  | opened may => exact may.elim
  | log f record => exact log f record
  | saw f mild => exact saw f mild
  | complains f e => exact complains f e
  | trans _ _ first second => exact first.trans second

end ComplainsOnly

theorem CallsOnly.complainsOnly {opens : Prop} {f g : Follower} (calls : CallsOnly opens f g) :
    ComplainsOnly opens f g := by
  induction calls with
  | @same f g rest =>
    refine .same ?_
    simp only [Prod.mk.injEq] at rest ⊢
    obtain ⟨standing, scanning, listeners, cancelled, shutdown, cache, vault, _, history⟩ := rest
    exact ⟨standing, scanning, listeners, cancelled, shutdown, cache, vault, history⟩
  | @opened f g may rest =>
    refine .opened may ?_
    simp only [Prod.mk.injEq] at rest ⊢
    obtain ⟨standing, scanning, listeners, cancelled, shutdown, cache, _, history⟩ := rest
    exact ⟨standing, scanning, listeners, cancelled, shutdown, cache, history⟩
  | log f record => exact .log f record
  | saw f domestic => exact .saw f domestic.mild
  | trans _ _ first second => exact first.trans second

theorem CallsOnly.sameTasksAndClient {opens : Prop} {f g : Follower}
    (calls : CallsOnly opens f g) : SameTasksAndClient f g :=
  calls.complainsOnly.sameTasksAndClient

/-- Closing the index that is held lets go of it, calls the store and logs a failure. -/
theorem keeps_dropIndex {related : Follower → Follower → Prop} [Std.Refl related]
    [IsTrans Follower related] (drops : ∀ f : Follower, related f { f with index := none })
    (closes : ∀ f number, related f (f.saw (.indexClose number)))
    (logs : ∀ f record, related f (f.log record)) : Act.Keeps related dropIndex := by
  refine Act.keeps_bind Act.keeps_get fun f => ?_
  split
  · exact Act.keeps_pure _
  · rename_i number _
    have closed : Act.Keeps related (closeIndex number) :=
      Act.keeps_call (fun f => closes f number) .indexClose (Act.keeps_pure _)
    refine Act.keeps_bind (Act.keeps_update drops) fun _ => Act.keeps_bind closed fun result => ?_
    cases result with
    | error e => exact Act.keeps_update fun f => logs f _
    | ok value => exact Act.keeps_pure _

namespace SameTasksAndClient

open Act

theorem noteRecord (record : LogRecord) :
    Keeps SameTasksAndClient (Act.update fun f => f.log record) :=
  keeps_update fun f => log f record

theorem orFail {α : Type} (result : Except WalletError α) :
    Keeps SameTasksAndClient (Follower.orFail result) := by
  intro f
  have calls : CallsOnly False f ((Follower.orFail result).run f).2 := CallsOnly.orFail result f
  exact calls.sameTasksAndClient

theorem openWallet (publicPass : Bytes) :
    Keeps SameTasksAndClient (Follower.openWallet publicPass) :=
  fun f => (CallsOnly.openWallet publicPass f).sameTasksAndClient

theorem initIndex (path : String) : Keeps SameTasksAndClient (Follower.initIndex path) :=
  fun f => (CallsOnly.initIndex path f).sameTasksAndClient

theorem dropIndex : Keeps SameTasksAndClient Follower.dropIndex :=
  keeps_dropIndex (fun _ => same rfl) (fun f _ => saw f trivial) log

theorem unloadWallet : Keeps SameTasksAndClient Follower.unloadWallet :=
  fun f => (CallsOnly.unloadWallet f).sameTasksAndClient

end SameTasksAndClient

/-- `g` comes from `f` by work for rescans: the wallet is called for them and listeners are told of
them, and only their slot, their tasks and what is cancelled change. -/
inductive Rescans : Follower → Follower → Prop where
  | same {f g : Follower}
      (rest : (g.standing, g.listeners, g.cache, g.vault, g.counts.spvSyncers, g.history) =
        (f.standing, f.listeners, f.cache, f.vault, f.counts.spvSyncers, f.history)) : Rescans f g
  | log (f : Follower) (record : LogRecord) : Rescans f (f.log record)
  | called (f : Follower) (link : Link) : Rescans f (f.saw (.rescan link))
  | tells (f : Follower) {event : Event} (scan : event.TellsScan) : Rescans f (f.broadcast event)
  | ended (f : Follower) (number : Nat) (outcome : RescanOutcome) :
    Rescans f (f.note (.rescanEnded number outcome))
  | trans {f g h : Follower} (first : Rescans f g) (second : Rescans g h) : Rescans f h

namespace Rescans

variable {f g : Follower}

theorem refl (f : Follower) : Rescans f f := same rfl

theorem sameSync (rescans : Rescans f g) : SameSync f g := by
  induction rescans with
  | @same f g rest =>
    simp only [Prod.mk.injEq] at rest
    exact SameSync.of_same rest.1 rest.2.2.2.2.2
  | log f record => exact SameSync.log f record
  | called f link => exact SameSync.saw f _ trivial
  | tells f scan => exact SameSync.broadcast f scan.goesOn
  | ended f number outcome => exact SameSync.note f _ trivial
  | trans _ _ first second => exact first.trans second

theorem startRescan (f : Follower) : Rescans f f.startRescan.1 := by
  unfold Follower.startRescan
  split
  · exact refl f
  · rename_i link _
    have occupied : Rescans f (f.occupyRescan (f.counts.rescanAttempts + 1)) := same rfl
    have begun := occupied.trans (log _ (.rescanStarting link.name))
    dsimp only
    split
    · exact begun.trans (same rfl)
    · exact begun.trans (same rfl)

theorem produce {job after : RescanJob} (step : f.produce job = some (g, after)) :
    Rescans f g := by
  have saw : Rescans f { f.saw (.rescan job.link) with lastRescan := some job.number } :=
    (called f job.link).trans (same rfl)
  unfold Follower.produce at step
  dsimp only at step
  repeat' split at step
  all_goals first
    | contradiction
    | exact (Prod.mk.inj (Option.some.inj step)).1 ▸ saw
    | exact (Prod.mk.inj (Option.some.inj step)).1 ▸ refl f

theorem logProgress (f : Follower) (tracker : Tracker) (force : Bool) :
    Rescans f (f.logProgress tracker force).1 := by
  unfold Follower.logProgress
  dsimp only
  split
  · exact log f _
  · exact refl f

theorem endRescan (f : Follower) (job : RescanJob) (outcome : RescanOutcome) :
    Rescans f (f.endRescan job outcome).1 := by
  have released : Rescans f f.releaseRescan := same rfl
  exact released.trans (ended _ job.number outcome)

theorem takeReport (f : Follower) (job : RescanJob) (rest : List Report) (report : Report) :
    Rescans f (f.takeReport job rest report).1 := by
  cases report with
  | height h => exact (tells f (by trivial)).trans (logProgress _ _ _)
  | failure e =>
    have cancelled : Rescans (f.log (.rescanFailed e))
        ((f.log (.rescanFailed e)).cancel (.rescan job.attempt)) := same rfl
    exact (log f _).trans (cancelled.trans ((tells _ (by trivial)).trans (endRescan _ _ _)))

theorem closeRescan (f : Follower) (job : RescanJob) : Rescans f (f.closeRescan job).1 := by
  unfold Follower.closeRescan
  dsimp only
  refine (log f (.rescanSummary job.tracker)).trans ?_
  split
  · exact (log _ _).trans ((tells _ (by trivial)).trans (endRescan _ _ _))
  · exact (logProgress _ _ _).trans ((tells _ (by trivial)).trans (endRescan _ _ _))

theorem consume {job after : RescanJob} (step : f.consume job = some (g, after)) :
    Rescans f g := by
  unfold Follower.consume at step
  split at step
  · contradiction
  · split at step
    · rename_i report rest _
      exact (Prod.mk.inj (Option.some.inj step)).1 ▸ takeReport f job rest report
    · split at step
      · exact (Prod.mk.inj (Option.some.inj step)).1 ▸ closeRescan f job
      · contradiction

theorem rescanTurn {step : Follower → RescanJob → Option (Follower × RescanJob)}
    (steps : ∀ {f g job after}, step f job = some (g, after) → Rescans f g) {number : Nat}
    (turned : f.rescanTurn step number = some g) : Rescans f g := by
  unfold Follower.rescanTurn at turned
  split at turned
  · contradiction
  · split at turned
    · contradiction
    · rename_i after job stepped
      have taken := steps stepped
      split at turned
      · cases turned
        exact taken.trans (same rfl)
      · cases turned
        exact taken.trans (same rfl)

end Rescans

end Follower

end ChainFollower

import ChainFollower.Follower.Opening
import ChainFollower.Follower.Session
import ChainFollower.Follower.Tip
import ChainFollower.Proofs.Fanout
import ChainFollower.Proofs.Work

/-! Work that leaves the sync session alone: calls of the wallet, of its loader and of the index,
events other than the end of a sync, and the building of a backend. -/
namespace ChainFollower

def ErrorCode.endsSync : ErrorCode → Bool
  | unclassified => true
  | canceled => true
  | deadlineExceeded => true
  | _ => false

def Event.endsSync : Event → Bool
  | syncError code _ => code.endsSync
  | _ => false

/-- The happening gives no link and takes none away, assigns no state and ends no start and no
sync. -/
def Happening.SparesSync : Happening → Prop
  | saw (.walletBackend _ _) => False
  | saw (.loaderBackend _ _) => False
  | saw _ => True
  | heard _ event => event.endsSync = false
  | logged _ => True
  | stateSet _ => False
  | startEnded _ => False
  | syncEnded _ _ => False
  | rescanEnded _ _ => True

namespace Follower

/-- How things stand with the sync: the session, the starts and runs under way and how many there
have been, the links, and which calls are set up to fail. -/
structure Standing where
  session : Session
  starts : List PendingStart
  runs : List RunLoop
  attempts : Nat
  syncs : Nat
  walletLink : Option Link
  loaderLink : Option Link
  faults : List (Place × Fault)

def standing (f : Follower) : Standing :=
  ⟨f.session, f.starts, f.runs, f.counts.startAttempts, f.counts.syncs, f.wallet.link,
    f.loader.link, f.faults⟩

/-- Things stand with `g` as with `f`, and what has happened since spares the sync. -/
structure SameSync (f g : Follower) : Prop where
  standing : g.standing = f.standing
  history : ∃ new, g.history = new ++ f.history ∧ ∀ happening ∈ new, happening.SparesSync

namespace SameSync

variable {f g h : Follower}

theorem of_same (standing : g.standing = f.standing) (history : g.history = f.history) :
    SameSync f g :=
  ⟨standing, [], history, by simp⟩

theorem refl (f : Follower) : SameSync f f := of_same rfl rfl

theorem trans (first : SameSync f g) (second : SameSync g h) : SameSync f h := by
  obtain ⟨new, grown, spares⟩ := first.history
  obtain ⟨new', grown', spares'⟩ := second.history
  refine ⟨second.standing.trans first.standing, new' ++ new, by rw [grown', grown,
    List.append_assoc], ?_⟩
  intro happening member
  rcases List.mem_append.mp member with member | member
  · exact spares' happening member
  · exact spares happening member

theorem session (same : SameSync f g) : g.session = f.session :=
  congrArg Standing.session same.standing

theorem starts (same : SameSync f g) : g.starts = f.starts := congrArg Standing.starts same.standing

theorem runs (same : SameSync f g) : g.runs = f.runs := congrArg Standing.runs same.standing

theorem attempts (same : SameSync f g) : g.counts.startAttempts = f.counts.startAttempts :=
  congrArg Standing.attempts same.standing

theorem syncs (same : SameSync f g) : g.counts.syncs = f.counts.syncs :=
  congrArg Standing.syncs same.standing

theorem walletLink (same : SameSync f g) : g.wallet.link = f.wallet.link :=
  congrArg Standing.walletLink same.standing

theorem loaderLink (same : SameSync f g) : g.loader.link = f.loader.link :=
  congrArg Standing.loaderLink same.standing

theorem faults (same : SameSync f g) : g.faults = f.faults := congrArg Standing.faults same.standing

theorem note (f : Follower) (happening : Happening) (spares : happening.SparesSync) :
    SameSync f (f.note happening) :=
  ⟨rfl, [happening], rfl, by simpa using spares⟩

theorem log (f : Follower) (record : LogRecord) : SameSync f (f.log record) :=
  note f (.logged record) trivial

theorem saw (f : Follower) (sight : Sight) (spares : (Happening.saw sight).SparesSync) :
    SameSync f (f.saw sight) :=
  note f (.saw sight) spares

theorem of_told {sent : Event → Prop} (told : Told sent f g)
    (goesOn : ∀ event, sent event → event.endsSync = false) : SameSync f g := by
  obtain ⟨ls, ts, hs, rfl, _, _, telling⟩ := told
  refine ⟨rfl, hs, rfl, fun happening member => ?_⟩
  have kind := telling happening member
  cases happening with
  | heard position event => exact goesOn event kind
  | logged record => trivial
  | _ => exact kind.elim

theorem broadcast (f : Follower) {event : Event} (goesOn : event.endsSync = false) :
    SameSync f (f.broadcast event) := by
  refine of_told (Told.broadcast event f) ?_
  rintro heard (rfl | rfl)
  · exact goesOn
  · rfl

theorem cancelSync (f : Follower) : SameSync f f.cancelSync := by
  refine of_told (Told.cancelSync f) ?_
  rintro heard rfl
  rfl

theorem cancelRescan (f : Follower) : SameSync f f.cancelRescan :=
  of_told (Told.cancelRescan f) (fun _ (none : False) => none.elim)

theorem cancelQuietly (f : Follower) : SameSync f f.cancelQuietly := by
  unfold Follower.cancelQuietly
  split <;> exact of_same rfl rfl

end SameSync

end Follower

end ChainFollower

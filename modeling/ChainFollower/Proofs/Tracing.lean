import ChainFollower.Proofs.Transitions
import ChainFollower.Proofs.Weaving

/-! The transitions of the session's state when the sections of several threads come in any order,
and notifications of any backend between them. -/
namespace ChainFollower.Weave

open Follower

/-- Only documented transitions lead here; between the coming back of a run and its detaching the
last state is the outcome of that run. -/
inductive Traced (w : Weave) : Prop where
  | whole (detached : w.ending = [])
      (documented : Documented (assigned w.follower.history) w.follower.session.state)
  | halfway {states : List SyncState} {held : SyncState} (left : w.ending ≠ [])
      (assigned : assigned w.follower.history = w.follower.session.state :: states)
      (ended : w.follower.session.state = .idle ∨ w.follower.session.state = .canceled ∨
        w.follower.session.state = .errored)
      (before : Documented states held) (attached : held.Attached)

theorem documented_idle {states : List SyncState} {state : SyncState}
    (documented : Documented states state) (inactive : state.isActive = false) : state = .idle := by
  cases documented <;> first | rfl | contradiction

theorem unwritten_effect (effect : Effect) : Act.Keeps Unwritten effect.act :=
  effect.keeps Writes.of_sameTasksAndClient (Writes.setWalletLink none) (Writes.setLoaderLink none)

namespace Traced

variable {w v : Weave}

theorem of_unwritten (traced : w.Traced) (unwritten : Unwritten w.follower v.follower)
    (ending : v.ending = w.ending) : v.Traced := by
  have history : assigned v.follower.history = assigned w.follower.history := unwritten.assigned
  have state : v.follower.session.state = w.follower.session.state := unwritten.state
  cases traced with
  | whole detached documented =>
    refine .whole (ending.trans detached) ?_
    rw [history, state]
    exact documented
  | halfway left assigned ended before attached =>
    refine .halfway (ending ▸ left) ?_ ?_ before attached
    · rw [history, state]
      exact assigned
    · rw [state]
      exact ended

theorem unattached (traced : w.Traced) (left : w.ending ≠ []) :
    ¬ w.follower.session.state.Attached := by
  cases traced with
  | whole detached => contradiction
  | halfway _ _ ended =>
    rcases ended with same | same | same <;> rw [same] <;> decide

theorem documented (traced : w.Traced) (detached : w.ending = []) :
    Documented (assigned w.follower.history) w.follower.session.state := by
  cases traced with
  | whole _ documented => exact documented
  | halfway left => contradiction

theorem of_writes (traced : w.Traced) (detached : w.ending = []) {states : List SyncState}
    (writes : Writes w.follower v.follower states) (ending : v.ending = [])
    (goesOn : Documented (assigned w.follower.history) w.follower.session.state →
      Documented (states ++ assigned w.follower.history)
        (states.headD w.follower.session.state)) : v.Traced := by
  refine .whole ending ?_
  rw [writes.assigned, writes.state]
  exact goesOn (traced.documented detached)

theorem enter (traced : w.Traced) (after : w.enter.Orderly) : w.enter.Traced := by
  rcases w.enter_cases with same | ⟨inactive, passed⟩
  · rw [same]
    exact traced
  · rw [passed] at after ⊢
    obtain ⟨_, _, _, ending⟩ := after.begun (List.mem_append_right _ List.mem_cons_self)
    have writes : Writes w.follower (w.follower.setState .starting).numbered [.starting] :=
      ⟨rfl, rfl⟩
    refine traced.of_writes ending writes ending fun documented => ?_
    exact .begins (documented_idle documented inactive ▸ documented)

theorem detach (traced : w.Traced) (left : w.ending ≠ []) (hold : w.follower.LinksHold)
    {ending : List Nat} (none : ending = []) :
    Traced { w with follower := (Follower.detach.run w.follower).2, ending := ending } := by
  rcases detach_cases w.follower with came | ⟨_, _, _, breaks, _⟩
  · rw [came]
    cases traced with
    | whole detached => contradiction
    | halfway _ assigned ended before attached =>
      refine .whole none ?_
      rw [(Writes.detached w.follower).assigned, assigned]
      exact .ends before attached ended
  · contradiction

theorem next {part : Section} (traced : w.Traced) (orderly : w.Orderly)
    (enabled : w.Enabled part) (apart : w.Apart part) (hold : w.follower.LinksHold) :
    (w.next part).Traced := by
  have after := orderly.next enabled apart
  cases part with
  | ask => exact traced.of_unwritten (.of_same rfl rfl) rfl
  | enter =>
    have fewer : Traced { w with asking := w.asking - 1 } :=
      traced.of_unwritten (.of_same rfl rfl) rfl
    exact fewer.enter after
  | store attempt => exact traced.of_unwritten (.of_same rfl rfl) rfl
  | launch attempt backend =>
    obtain ⟨starting, _, _, ending⟩ := orderly.begun enabled
    change (w.launch attempt backend).Traced
    rcases w.launch_cases attempt backend with launched | ⟨breaks, _⟩
    · rw [launched]
      refine traced.of_writes ending (Writes.attached _ _) ending fun before => ?_
      exact .launches (starting ▸ before)
    · contradiction
  | abort attempt =>
    obtain ⟨starting, _, _, ending⟩ := orderly.begun enabled
    refine traced.of_writes ending (Writes.abortStart w.follower) ending fun before => ?_
    exact .aborts (starting ▸ before)
  | assign attempt result =>
    obtain ⟨attached, _, _, ending⟩ := orderly.running enabled
    have written := Writes.setState w.follower (SyncOutcome.ofRun result).state
    exact .halfway (by simp [Weave.next]) written.assigned (SyncOutcome.state_cases _)
      (traced.documented ending) attached
  | detach attempt =>
    obtain ⟨_, _, ending⟩ := orderly.ending enabled
    exact traced.detach (List.ne_nil_of_mem enabled) hold (by simp [ending])
  | lose attempt => exact traced.of_unwritten (.of_same rfl rfl) rfl
  | cancelQuietly =>
    exact traced.of_unwritten (Writes.of_sameSync (SameSync.cancelQuietly w.follower)) rfl
  | effect effect => exact traced.of_unwritten (unwritten_effect effect w.follower) rfl
  | notify kind notification =>
    have writes := Writes.notify kind notification w.follower
    by_cases detached : w.ending = []
    · exact traced.of_writes detached writes detached fun before => documented_flips before _
    · rw [flips_unattached (traced.unattached detached)] at writes
      exact traced.of_unwritten writes rfl

theorem after {parts : List Section} (traced : w.Traced) (orderly : w.Orderly)
    (woven : w.Woven (fun w part => w.Apart part ∧ w.follower.LinksHold) parts) :
    (w.after parts).Traced := by
  induction parts generalizing w with
  | nil => exact traced
  | cons part rest ih =>
    obtain ⟨enabled, ⟨apart, hold⟩, woven⟩ := woven
    exact ih (traced.next orderly enabled apart hold) (orderly.next enabled apart) woven

end Traced

/-- In any order of the sections in which no start passes its guard between the coming back of a run
and its detaching, the session's state goes by documented transitions only, whatever backends say
in between. -/
theorem traced_after {f : Follower} (fresh : f.Fresh) {parts : List Section}
    (woven : (only f).Woven (fun w part => w.Apart part ∧ w.follower.LinksHold) parts) :
    ((only f).after parts).Traced := by
  have traced : (only f).Traced := by
    refine .whole rfl ?_
    change Documented (assigned f.history) f.session.state
    rw [fresh.history, fresh.session]
    exact .fresh
  exact traced.after (only_orderly f) woven

end ChainFollower.Weave

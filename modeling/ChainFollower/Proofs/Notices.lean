import ChainFollower.Proofs.Transitions

/-! Whose state a backend's notification changes. What a backend reports through does not know the
session that it was made for: it reaches the session that is attached when it is used, and none if
none is. -/
namespace ChainFollower

namespace Follower

theorem syncedState?_eq (state : SyncState) (caughtUp : Bool) :
    syncedState? state caughtUp = if state.Attached ∧ state ≠ .ofSynced caughtUp then
      some (.ofSynced caughtUp) else none := by
  cases state <;> cases caughtUp <;> rfl

/-- Whatever the listeners do, a notification changes the session's state at most, and that only
between running and synced. -/
theorem session_notified (kind : BackendKind) (caughtUp : Bool) (f : Follower) :
    (f.notify kind (.synced caughtUp)).session =
      ⟨if f.session.state.Attached then .ofSynced caughtUp else f.session.state,
        f.session.backend, f.session.token⟩ := by
  have told (g : Follower) : (g.broadcast (.synced caughtUp)).session = g.session := by
    obtain ⟨_, _, _, same, _⟩ := Told.broadcast (.synced caughtUp) g
    rw [same]
  simp only [notify, syncedState?_eq]
  by_cases attached : f.session.state.Attached
  · by_cases already : f.session.state = .ofSynced caughtUp
    · simp only [already, ne_eq, not_true, and_false, if_false, SyncState.attached_ofSynced, if_true]
      rw [told, ← already]
    · simp only [attached, already, ne_eq, not_false_eq_true, and_self, if_true]
      rw [told]
      rfl
  · simp only [attached, false_and, if_false]
    rw [told]

end Follower

namespace Course

variable {allowed : Follower → Move → Follower → Prop} {c d : Course}

theorem attached_next {move : Move} {g : Follower} {run : RunLoop}
    (attached : run ∈ (c.next move g).attached) :
    run ∈ c.attached ∨ c.follower.counts.syncs < run.number := by
  rcases List.mem_append.mp attached with kept | launched
  · split at kept
    · exact Or.inl (List.mem_filter.mp kept).1
    · exact Or.inl kept
  · obtain ⟨started, new, rfl⟩ := List.mem_map.mp launched
    have number : c.follower.counts.syncs < started.number := by
      simpa using (List.mem_filter.mp new).2
    exact Or.inr number

/-- A run that is attached later was attached before, or it was launched since and has a higher number
than all before. -/
theorem Ran.attached_later (ran : Ran allowed c d) :
    c.follower.counts.syncs ≤ d.follower.counts.syncs ∧
      ∀ run ∈ d.attached, run ∈ c.attached ∨ c.follower.counts.syncs < run.number := by
  induction ran with
  | start => exact ⟨Nat.le_refl _, fun run member => Or.inl member⟩
  | @move d move g before made may ih =>
    obtain ⟨fewer, old⟩ := ih
    refine ⟨Nat.le_trans fewer (Follower.numbered_move made).syncs, fun run member => ?_⟩
    rcases attached_next member with kept | launched
    · exact old run kept
    · exact Or.inr (Nat.lt_of_le_of_lt fewer launched)

/-- Either no run is attached, and the state says so, or one is. -/
theorem Sound.attached_cases (sound : c.Sound) :
    (c.attached = [] ∧ ¬ c.follower.session.state.Attached) ∨
      ∃ run, c.attached = [run] ∧ c.follower.session.state.Attached ∧
        run.number ≤ c.follower.counts.syncs := by
  cases sound with
  | vacant inactive _ _ _ _ attached =>
    refine Or.inl ⟨attached, fun held => ?_⟩
    rw [held.active] at inactive
    contradiction
  | opening state _ _ _ attached =>
    refine Or.inl ⟨attached, ?_⟩
    rw [state]
    decide
  | held run state _ _ _ _ attached numbered => exact Or.inr ⟨run, attached, state, numbered⟩

/-- While a run is attached it is the only one, and after it only runs with higher numbers are. -/
theorem Reached.attached_after (reached : c.Reached) {run other : RunLoop}
    (attached : run ∈ c.attached) (ran : Ran allowed c d) (later : other ∈ d.attached) :
    other = run ∨ run.number < other.number := by
  rcases reached.sound.attached_cases with ⟨none, _⟩ | ⟨only, one, _, numbered⟩
  · simp [none] at attached
  · have same : run = only := by simpa [one] using attached
    subst same
    rcases ran.attached_later.2 other later with kept | launched
    · exact Or.inl (by simpa [one] using kept)
    · exact Or.inr (Nat.lt_of_le_of_lt numbered launched)

/-- What a backend reports through, of whatever kind and whenever it was made, changes the session's
state exactly if a run is attached when it is used and the state is not yet what is said. Once a run
was attached that is this run, or else one that was launched after it. -/
theorem notice_reaches_attached (reached : c.Reached) (ran : Ran allowed c d) (kind : BackendKind)
    (caughtUp : Bool) :
    let g := d.follower.notify kind (.synced caughtUp)
    g.session.backend = d.follower.session.backend ∧
      g.session.token = d.follower.session.token ∧
      (d.attached ≠ [] → g.session.state = .ofSynced caughtUp) ∧
      (g.session.state ≠ d.follower.session.state ↔
        d.follower.session.state ≠ .ofSynced caughtUp ∧ ∃ other, d.attached = [other]) ∧
      ∀ run ∈ c.attached, ∀ other ∈ d.attached, other = run ∨ run.number < other.number := by
  have notified := d.follower.session_notified kind caughtUp
  have moved := congrArg Session.state notified
  refine ⟨by rw [notified], by rw [notified], ?_, ?_, ?_⟩
  · intro some
    rcases (ran.sound reached.sound).attached_cases with ⟨none, _⟩ | ⟨_, _, held, _⟩
    · exact absurd none some
    · exact moved.trans (if_pos held)
  · rcases (ran.sound reached.sound).attached_cases with ⟨none, idle⟩ | ⟨other, one, held, _⟩
    · have same := moved.trans (if_neg idle)
      simp [same, none]
    · have said := moved.trans (if_pos held)
      constructor
      · intro changed
        rw [said] at changed
        exact ⟨changed.symm, other, one⟩
      · rintro ⟨differs, _⟩
        rw [said]
        exact differs.symm
  · exact fun run attached other later => reached.attached_after attached ran later

def served : Course :=
  let start : Scenario.Step := .start (.rpc "127.0.0.1" "user" "pass" none)
  standard.next (.step start) (start.perform standard.follower).2

theorem served_reached : served.Reached :=
  ⟨standard, standard_initial, .of_after (rfl : standard.after?
    [.step (.start (.rpc "127.0.0.1" "user" "pass" none))] = some served)⟩

theorem served_attached : served.attached = [⟨1, 1, .rpc 1 ⟨1⟩, false⟩] := by decide +kernel

/-- The run of the server comes back, and one with peers is launched. -/
theorem served_then_peers : ∃ d, Ran (fun _ _ _ => True) served d ∧
    d.attached = [⟨2, 2, .spv 1, false⟩] ∧ d.follower.session.state = .running := by
  have relaunched : served.after?
    [.call 1, .runEnds 1 .ok, .step (.start (.spv []))] = some _ := rfl
  exact ⟨_, .of_after relaunched, by decide +kernel, by decide +kernel⟩

theorem notice_reaches_attached_later : ∃ d, Ran (fun _ _ _ => True) served d ∧
    (∀ run ∈ served.attached, ∀ other ∈ d.attached, other = run ∨ run.number < other.number) ∧
      (d.follower.notify .rpc (.synced true)).session.state ≠ d.follower.session.state := by
  obtain ⟨d, ran, attached, running⟩ := served_then_peers
  obtain ⟨_, _, _, changes, later⟩ := notice_reaches_attached served_reached ran .rpc true
  refine ⟨d, ran, later, changes.mpr ⟨?_, _, attached⟩⟩
  rw [running]
  decide

/-- What was made for the server's run, which came back, makes the run with peers a synced one. And
what was made for a run whose backend the closed wallet has given up makes the session a synced one
without any backend. -/
theorem stale_notice_syncs :
    (∃ d, Ran (fun _ _ _ => True) served d ∧ served.attached = [⟨1, 1, .rpc 1 ⟨1⟩, false⟩] ∧
      d.attached = [⟨2, 2, .spv 1, false⟩] ∧ d.follower.session.state = .running ∧
      (d.follower.notify .rpc (.synced true)).session.state = .synced) ∧
    ∃ d, Ran (fun _ _ _ => True) served d ∧ d.follower.wallet.link = none ∧
      d.follower.loader.link = none ∧ d.follower.session.state = .running ∧
      (d.follower.notify .rpc (.synced true)).session.state = .synced := by
  constructor
  · obtain ⟨d, ran, attached, running⟩ := served_then_peers
    have notified := d.follower.session_notified .rpc true
    refine ⟨d, ran, served_attached, attached, running, ?_⟩
    rw [notified, running]
    rfl
  · have closed : served.after? [.step .closeWallet] = some _ := rfl
    refine ⟨_, .of_after closed, ?_, ?_, ?_, ?_⟩
    all_goals decide +kernel

end Course

end ChainFollower

import ChainFollower.Proofs.Course
import ChainFollower.Proofs.Elsewhere
import ChainFollower.Proofs.Hearing

/-! What listeners hear over a whole run: whatever moves are made, events are sent one after the
other, each in a round of its own, and listeners come only behind those that there are. -/
namespace ChainFollower

structure Dispatch where
  event : Event
  round : Round

def Dispatch.heard (position : Nat) (dispatch : Dispatch) : List Event :=
  dispatch.round.heard position dispatch.event

namespace Follower

inductive Voices : List Dispatch → Follower → Follower → Prop where
  | silent {f g : Follower} (retains : Retains f g)
      (unheard : ∀ position, g.hearing position = f.hearing position) : Voices [] f g
  | sends {event : Event} {round : Round} {f g : Follower}
      (everyone : round.positions = List.range f.listeners.length)
      (sends : Sends event round f g) : Voices [⟨event, round⟩] f g
  | trans {first second : List Dispatch} {f g h : Follower} (before : Voices first f g)
      (after : Voices second g h) : Voices (first ++ second) f h

namespace Voices

variable {dispatches : List Dispatch} {f g : Follower}

theorem retains (voices : Voices dispatches f g) : Retains f g := by
  induction voices with
  | silent retains => exact retains
  | sends everyone sends => exact sends.retains
  | trans _ _ first second => exact first.trans second

theorem everyone (voices : Voices dispatches f g) : ∀ dispatch ∈ dispatches,
    ∃ registered, f.listeners.length ≤ registered ∧
      dispatch.round.positions = List.range registered := by
  induction voices with
  | silent => exact fun _ => nofun
  | @sends event round f g everyone sends =>
    intro dispatch member
    rw [List.mem_singleton.mp member]
    exact ⟨f.listeners.length, Nat.le_refl _, everyone⟩
  | @trans first second f g h before after ih ih' =>
    intro dispatch member
    rcases List.mem_append.mp member with earlier | later
    · exact ih dispatch earlier
    · obtain ⟨registered, more, called⟩ := ih' dispatch later
      exact ⟨registered, Nat.le_trans before.retains.length_le more, called⟩

/-- A listener with callbacks is called once in every round. -/
theorem called (voices : Voices dispatches f g) {position : Nat} (hears : f.hears position = true) :
    ∀ dispatch ∈ dispatches, position ∈ dispatch.round.positions ∧
      dispatch.round.positions.Pairwise (· < ·) := by
  intro dispatch member
  obtain ⟨registered, more, everyone⟩ := voices.everyone dispatch member
  have inside := registered_of_hears hears
  rw [everyone]
  exact ⟨List.mem_range.mpr (by omega), List.pairwise_lt_range⟩

/-- A listener with callbacks hears its part of every round. -/
theorem hearing (voices : Voices dispatches f g) {position : Nat} (hears : f.hears position = true) :
    g.hearing position = f.hearing position ++ dispatches.flatMap (Dispatch.heard position) := by
  induction voices with
  | silent retains unheard => rw [unheard, List.flatMap_nil, List.append_nil]
  | @sends event round f g everyone sends =>
    obtain ⟨recounts, exact⟩ := sends.recounts
    have told := round.heardBy_tale event ((hears_iff f position).mp hears) exact
    rw [hearing_eq, hearing_eq, recounts.tale, heardBy_append, told, List.flatMap_singleton]
    rfl
  | @trans first second f g h before after ih ih' =>
    have still := (before.retains.hears_eq (registered_of_hears hears)).trans hears
    rw [ih' still, ih hears, List.flatMap_append, List.append_assoc]

/-- But for what is sent from inside the rounds, it hears each event once. -/
theorem hearing_filter (voices : Voices dispatches f g) {position : Nat}
    (hears : f.hears position = true)
    (others : ∀ dispatch ∈ dispatches, dispatch.event ≠ .synced false) :
    (g.hearing position).filter (· ≠ .synced false) =
      (f.hearing position).filter (· ≠ .synced false) ++ dispatches.map Dispatch.event := by
  rw [voices.hearing hears, List.filter_append, List.filter_flatMap, List.map_eq_flatMap]
  congr 1
  refine List.flatMap_congr fun dispatch member => ?_
  obtain ⟨inside, sorted⟩ := voices.called hears dispatch member
  refine (Round.heard_filter sorted inside).trans (List.filter_eq_self.mpr fun event same => ?_)
  rw [List.mem_singleton.mp same]
  exact decide_eq_true (others dispatch member)

/-- If nothing is sent from inside them, it hears nothing else. -/
theorem hearing_exact (voices : Voices dispatches f g) {position : Nat}
    (hears : f.hears position = true)
    (calm : ∀ dispatch ∈ dispatches, dispatch.round.sent = 0) :
    g.hearing position = f.hearing position ++ dispatches.map Dispatch.event := by
  rw [voices.hearing hears, List.map_eq_flatMap]
  congr 1
  refine List.flatMap_congr fun dispatch member => ?_
  obtain ⟨inside, sorted⟩ := voices.called hears dispatch member
  have heard := dispatch.round.heard_perm position dispatch.event
  rw [Round.count_called sorted inside, calm dispatch member] at heard
  exact List.perm_singleton.mp heard

end Voices

def Voiced (f g : Follower) : Prop := ∃ dispatches, Voices dispatches f g

namespace Voiced

variable {f g h : Follower}

theorem of_same (rest : (g.listeners, g.history) = (f.listeners, f.history)) : Voiced f g := by
  obtain ⟨listeners, history⟩ := Prod.mk.inj rest
  refine ⟨[], .silent (Retains.of_same listeners) fun position => ?_⟩
  rw [Follower.hearing, Follower.hearing, history]

theorem refl (f : Follower) : Voiced f f := of_same rfl

theorem trans (first : Voiced f g) (second : Voiced g h) : Voiced f h := by
  obtain ⟨before, voices⟩ := first
  obtain ⟨after, voices'⟩ := second
  exact ⟨before ++ after, voices.trans voices'⟩

theorem note (f : Follower) {happening : Happening} (unheard : ¬ happening.Heard) :
    Voiced f (f.note happening) := by
  refine ⟨[], .silent (Retains.of_same rfl) fun position => ?_⟩
  rw [Follower.hearing, (Without.note f unheard).heard_same]
  rfl

theorem log (f : Follower) (record : LogRecord) : Voiced f (f.log record) := note f id

theorem broadcast (f : Follower) (event : Event) : Voiced f (f.broadcast event) := by
  obtain ⟨round, everyone, sends⟩ := sends_broadcast event f
  exact ⟨_, .sends everyone sends⟩

theorem addListener (f : Follower) (listener : Listener) : Voiced f (f.addListener listener) := by
  refine ⟨[], .silent (Retains.register f listener) fun position => ?_⟩
  rfl

theorem cancelQuietly (f : Follower) : Voiced f f.cancelQuietly := by
  unfold Follower.cancelQuietly
  split <;> exact of_same rfl

theorem cancelRescan (f : Follower) : Voiced f f.cancelRescan := by
  unfold Follower.cancelRescan
  split
  · exact (log f .rescanCancelling).trans (of_same rfl)
  · exact refl f

theorem cancelSync (f : Follower) : Voiced f f.cancelSync := by
  have cancelled : Voiced f f.cancelSession := by
    unfold Follower.cancelSession
    split
    · exact (log f .cancellingSync).trans (of_same rfl)
    · exact refl f
  exact cancelled.trans (broadcast _ _)

theorem of_sameTasksAndClient (spared : SameTasksAndClient f g) : Voiced f g := by
  induction spared with
  | @same f g rest =>
    simp only [Prod.mk.injEq] at rest
    exact of_same (by rw [rest.2.2.1, rest.2.2.2.2.2.2])
  | log f record => exact log f record
  | saw f plain => exact note f id
  | broadcast f goesOn => exact broadcast f _
  | trans _ _ first second => exact first.trans second

theorem of_dialled (dialled : Dialled f g) : Voiced f g := by
  induction dialled with
  | spared spared => exact of_sameTasksAndClient spared
  | saw f spares => exact note f id
  | cached f cache => exact of_same rfl
  | trans _ _ first second => exact first.trans second

theorem of_harmless {dials : Prop} (harmless : Harmless dials f g) : Voiced f g := by
  induction harmless with
  | spared spared => exact of_sameTasksAndClient spared
  | @same f g rest =>
    simp only [Prod.mk.injEq] at rest
    exact of_same (by rw [rest.2.2.1, rest.2.2.2.2.2.2])
  | @note f happening elsewhere =>
    refine note f ?_
    cases happening with
    | heard listener event => exact elsewhere.elim
    | _ => exact id
  | broadcast f event => exact broadcast f event
  | dialled may dialled => exact of_dialled dialled
  | trans _ _ first second => exact first.trans second

theorem of_rescans (rescans : Rescans f g) : Voiced f g := by
  induction rescans with
  | @same f g rest =>
    simp only [Prod.mk.injEq] at rest
    exact of_same (by rw [rest.2.1, rest.2.2.2.2.2])
  | log f record => exact log f record
  | called f link => exact note f id
  | tells f scan => exact broadcast f _
  | ended f number outcome => exact note f id
  | trans _ _ first second => exact first.trans second

theorem of_outside (outside : Outside f g) : Voiced f g := by
  induction outside with
  | harmless harmless => exact of_harmless harmless
  | @same f g rest token =>
    simp only [Prod.mk.injEq] at rest
    exact of_same (by rw [rest.2.1, rest.2.2.2.2])
  | cancelQuietly f => exact cancelQuietly f
  | cancelRescan f => exact cancelRescan f
  | trans _ _ first second => exact first.trans second

theorem perform {step : Scenario.Step} (leaves : step.LeavesSync) (f : Follower) :
    Voiced f (step.perform f).2 := by
  by_cases spares : step.SparesTasks
  · exact of_sameTasksAndClient (Scenario.Step.sameTasksAndClient_perform spares f)
  · cases step with
    | cancelSync => exact cancelSync f
    | cancelRescan => exact cancelRescan f
    | cacheStore => exact of_dialled (Scenario.Step.dialled_storeClient f)
    | cacheInvalidate => exact of_dialled (Dialled.invalidateCache f)
    | shutdown => exact (log f .shutdownRequested).trans (of_same rfl)
    | addListener listener => exact addListener f listener
    | startRescan => exact of_rescans (Rescans.startRescan f)
    | rescanScript script => exact of_same rfl
    | rescanFeed items ending =>
      simp only [Scenario.Step.perform, Scenario.Step.flagOf, Scenario.Step.feed]
      split
      · exact refl f
      · exact of_same rfl
    | _ => exact absurd ⟨leaves, id⟩ spares

/-- In every move events are sent in rounds. -/
theorem of_move {move : Move} (made : f.move? move = some g) : Voiced f g := by
  by_cases acts : ∀ step, move = .step step → ¬ step.LeavesSync
  · cases move with
    | produce number =>
      have turned : f.rescanTurn produce number = some g := made
      exact of_rescans (Rescans.rescanTurn Rescans.produce turned)
    | consume number =>
      have turned : f.rescanTurn consume number = some g := made
      exact of_rescans (Rescans.rescanTurn Rescans.consume turned)
    | step step =>
      have other : ¬ step.Scans := fun scans => acts step rfl scans.leavesSync
      exact of_outside (.of_move made acts other)
    | _ => exact of_outside (.of_move made acts id)
  · obtain ⟨step, rfl, leaves⟩ : ∃ step, move = .step step ∧ step.LeavesSync := by
      simpa using acts
    cases made
    exact perform leaves f

end Voiced

end Follower

open Follower

namespace Course

/-- In every run events are sent in rounds, one after the other. -/
theorem Ran.voiced {allowed : Follower → Move → Follower → Prop} {c d : Course}
    (ran : Ran allowed c d) : Voiced c.follower d.follower := by
  induction ran with
  | start => exact Voiced.refl _
  | move before made may ih => exact ih.trans (Voiced.of_move made)

/-- Fan-out is exact: whoever is registered when an event is sent is called once, in order of
registration. -/
theorem fan_out_exact :
    (∀ (f : Follower) (event : Event), ∃ round : Round,
      Sends event round f (f.broadcast event) ∧
      round.positions = List.range f.listeners.length ∧ round.Exact f.listeners.length ∧
      (f.broadcast event).tale = f.tale ++ round.tale event f.ears ∧
      (f.broadcast event).ears = f.ears ++ List.replicate round.grown true) ∧
    ∀ {allowed : Follower → Move → Follower → Prop} {c d : Course}, Ran allowed c d →
      Retains c.follower d.follower := by
  constructor
  · intro f event
    obtain ⟨round, everyone, sends⟩ := sends_broadcast event f
    obtain ⟨recounts, exact⟩ := sends.recounts
    rw [ears_length] at exact
    exact ⟨round, sends, everyone, exact, recounts.tale, recounts.ears⟩
  · intro allowed c d ran
    obtain ⟨dispatches, voices⟩ := ran.voiced
    exact voices.retains

end Course

end ChainFollower

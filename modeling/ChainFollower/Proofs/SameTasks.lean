import ChainFollower.Proofs.SameSync

/-! Work that leaves rescans alone: none is started, goes on or ends. Much of it leaves the sync
session alone as well. -/
namespace ChainFollower

def rescanOutcomes (number : Nat) (history : List Happening) : List RescanOutcome :=
  history.filterMap (fun happening =>
    match happening with
    | .rescanEnded ended outcome => if ended = number then some outcome else none
    | _ => none)

theorem rescanOutcomes_append (number : Nat) (new old : List Happening) :
    rescanOutcomes number (new ++ old) =
      rescanOutcomes number new ++ rescanOutcomes number old :=
  List.filterMap_append

theorem rescanOutcomes_ended (number other : Nat) (outcome : RescanOutcome)
    (history : List Happening) :
    rescanOutcomes other (.rescanEnded number outcome :: history) =
      if number = other then outcome :: rescanOutcomes other history
      else rescanOutcomes other history := by
  by_cases same : number = other
  · simp [rescanOutcomes, same]
  · simp [rescanOutcomes, same]

def Happening.EndsRescan : Happening → Prop
  | rescanEnded _ _ => True
  | _ => False

theorem rescanOutcomes_nil {number : Nat} {history : List Happening}
    (others : ∀ happening ∈ history, ¬ happening.EndsRescan) :
    rescanOutcomes number history = [] := by
  refine List.filterMap_eq_nil_iff.mpr fun happening member => ?_
  have other := others happening member
  cases happening with
  | rescanEnded ended outcome => exact absurd trivial other
  | _ => rfl

namespace Follower

/-- How things stand with rescans: the slot, the tasks, how many there have been, and what the wallet
has for the next one. -/
structure Scanning where
  slot : RescanSlot
  jobs : List RescanJob
  attempts : Nat
  count : Nat
  script : RescanScript

def scanning (f : Follower) : Scanning :=
  ⟨f.rescanSlot, f.rescans, f.counts.rescanAttempts, f.counts.rescans, f.wallet.rescan⟩

def Holding (f : Follower) (attempt : Nat) : Prop :=
  f.session.token = some (.rescan attempt) ∨ f.rescanSlot.token = some (.rescan attempt)

/-- Between `f` and `g` no rescan was started, went on or ended, and no token of one was cancelled
but what a slot had. -/
structure SameScans (f g : Follower) : Prop where
  scanning : g.scanning = f.scanning
  listeners : f.listeners.map Listener.silent <+: g.listeners.map Listener.silent
  token : ∀ attempt, g.session.token = some (.rescan attempt) →
    f.session.token = some (.rescan attempt)
  cancelled : ∃ new, g.cancelled = new ++ f.cancelled ∧
    ∀ attempt, .rescan attempt ∈ new → f.Holding attempt
  shutdown : f.shutdown = true → g.shutdown = true
  outcomes : ∀ number, rescanOutcomes number g.history = rescanOutcomes number f.history

namespace SameScans

variable {f g h : Follower}

theorem slot (unscanned : SameScans f g) : g.rescanSlot = f.rescanSlot :=
  congrArg Scanning.slot unscanned.scanning

theorem rescans (unscanned : SameScans f g) : g.rescans = f.rescans :=
  congrArg Scanning.jobs unscanned.scanning

theorem attempts (unscanned : SameScans f g) :
    g.counts.rescanAttempts = f.counts.rescanAttempts :=
  congrArg Scanning.attempts unscanned.scanning

theorem count (unscanned : SameScans f g) : g.counts.rescans = f.counts.rescans :=
  congrArg Scanning.count unscanned.scanning

theorem script (unscanned : SameScans f g) : g.wallet.rescan = f.wallet.rescan :=
  congrArg Scanning.script unscanned.scanning

/-- What was cancelled stays so. -/
theorem isCancelled (unscanned : SameScans f g) {token : Token}
    (before : f.isCancelled token = true) : g.isCancelled token = true := by
  obtain ⟨new, grown, _⟩ := unscanned.cancelled
  unfold Follower.isCancelled at before ⊢
  rw [grown]
  rcases Bool.or_eq_true _ _ ▸ before with down | member
  · simp [unscanned.shutdown down]
  · have inside : token ∈ f.cancelled := by simpa using member
    simp [inside]

theorem holding (unscanned : SameScans f g) {attempt : Nat} (held : g.Holding attempt) :
    f.Holding attempt := by
  rcases held with session | slot
  · exact Or.inl (unscanned.token attempt session)
  · exact Or.inr (unscanned.slot ▸ slot)

/-- All that matters to rescans is the same, but for what the session's token is. -/
theorem of_same
    (rest : (g.scanning, g.listeners, g.cancelled, g.shutdown, g.history) =
      (f.scanning, f.listeners, f.cancelled, f.shutdown, f.history))
    (token : ∀ attempt, g.session.token = some (.rescan attempt) →
      f.session.token = some (.rescan attempt)) : SameScans f g := by
  obtain ⟨scanning, listeners, cancelled, shutdown, history⟩ :
      g.scanning = f.scanning ∧ g.listeners = f.listeners ∧ g.cancelled = f.cancelled ∧
        g.shutdown = f.shutdown ∧ g.history = f.history := by
    simpa only [Prod.mk.injEq] using rest
  exact {
    scanning := scanning
    listeners := listeners ▸ List.prefix_refl _
    token := token
    cancelled := ⟨[], cancelled, by simp⟩
    shutdown := shutdown.trans
    outcomes := fun number => by rw [history] }

theorem refl (f : Follower) : SameScans f f := of_same rfl fun _ => id

theorem trans (first : SameScans f g) (second : SameScans g h) : SameScans f h where
  scanning := second.scanning.trans first.scanning
  listeners := first.listeners.trans second.listeners
  token attempt held := first.token attempt (second.token attempt held)
  cancelled := by
    obtain ⟨new, grown, held⟩ := first.cancelled
    obtain ⟨new', grown', held'⟩ := second.cancelled
    refine ⟨new' ++ new, by rw [grown', grown, List.append_assoc], fun attempt member => ?_⟩
    rcases List.mem_append.mp member with member | member
    · exact first.holding (held' attempt member)
    · exact held attempt member
  shutdown down := second.shutdown (first.shutdown down)
  outcomes number := (second.outcomes number).trans (first.outcomes number)

theorem note (f : Follower) {happening : Happening} (other : ¬ happening.EndsRescan) :
    SameScans f (f.note happening) :=
  { refl f with
    outcomes := by
      intro number
      have none : rescanOutcomes number [happening] = [] :=
        rescanOutcomes_nil (by simpa using other)
      have grown := rescanOutcomes_append number [happening] f.history
      rwa [none, List.nil_append] at grown }

theorem of_told {sent : Event → Prop} (told : Told sent f g) : SameScans f g := by
  obtain ⟨ls, ts, hs, rfl, grown, slots, telling⟩ := told
  refine ⟨rfl, grown, fun _ => id, ⟨ts, rfl, fun attempt member => slots _ member⟩, id, ?_⟩
  intro number
  have none : rescanOutcomes number hs = [] := by
    refine rescanOutcomes_nil fun happening member => ?_
    have kind := telling happening member
    cases happening with
    | rescanEnded ended outcome => exact kind.elim
    | _ => exact id
  exact (rescanOutcomes_append number hs f.history).trans (by rw [none, List.nil_append])

/-- Who hears events when rescans are left alone goes on hearing them. -/
theorem hears (unscanned : SameScans f g) {position : Nat} (heard : f.hears position = true) :
    g.hears position = true :=
  (hears_of_grown unscanned.listeners (registered_of_hears heard)).trans heard

end SameScans

/-- Between `f` and `g` neither the sync nor rescans were touched. -/
structure SameTasks (f g : Follower) : Prop extends SameSync f g, SameScans f g

namespace SameTasks

variable {f g h : Follower}

theorem of_same
    (rest : (g.standing, g.scanning, g.listeners, g.cancelled, g.shutdown, g.history) =
      (f.standing, f.scanning, f.listeners, f.cancelled, f.shutdown, f.history)) :
    SameTasks f g := by
  obtain ⟨standing, scanning, listeners, cancelled, shutdown, history⟩ :
      g.standing = f.standing ∧ g.scanning = f.scanning ∧ g.listeners = f.listeners ∧
        g.cancelled = f.cancelled ∧ g.shutdown = f.shutdown ∧ g.history = f.history := by
    simpa only [Prod.mk.injEq] using rest
  have sync : SameSync f g := SameSync.of_same standing history
  have unscanned : SameScans f g := by
    refine SameScans.of_same ?_ fun attempt held => sync.session ▸ held
    rw [scanning, listeners, cancelled, shutdown, history]
  exact ⟨sync, unscanned⟩

theorem refl (f : Follower) : SameTasks f f := ⟨SameSync.refl f, SameScans.refl f⟩

theorem trans (first : SameTasks f g) (second : SameTasks g h) : SameTasks f h :=
  ⟨first.toSameSync.trans second.toSameSync, first.toSameScans.trans second.toSameScans⟩

theorem log (f : Follower) (record : LogRecord) : SameTasks f (f.log record) :=
  ⟨SameSync.log f record, SameScans.note f id⟩

theorem saw (f : Follower) (sight : Sight) (spares : (Happening.saw sight).SparesSync) :
    SameTasks f (f.saw sight) :=
  ⟨SameSync.saw f sight spares, SameScans.note f id⟩

theorem of_told {sent : Event → Prop} (told : Told sent f g)
    (goesOn : ∀ event, sent event → event.endsSync = false) : SameTasks f g :=
  ⟨SameSync.of_told told goesOn, SameScans.of_told told⟩

theorem broadcast (f : Follower) {event : Event} (goesOn : event.endsSync = false) :
    SameTasks f (f.broadcast event) :=
  ⟨SameSync.broadcast f goesOn, SameScans.of_told (Told.broadcast event f)⟩

theorem cancelSync (f : Follower) : SameTasks f f.cancelSync :=
  ⟨SameSync.cancelSync f, SameScans.of_told (Told.cancelSync f)⟩

theorem of_silent (told : Told (fun _ => False) f g) : SameTasks f g :=
  of_told told fun _ none => none.elim

theorem cancelRescan (f : Follower) : SameTasks f f.cancelRescan :=
  of_silent (Told.cancelRescan f)

theorem cancelQuietly (f : Follower) : SameTasks f f.cancelQuietly := by
  unfold Follower.cancelQuietly
  split
  · rename_i token held
    exact of_silent (Told.cancel (Or.inl held))
  · exact refl f

end SameTasks

end Follower

end ChainFollower

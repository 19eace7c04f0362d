import ChainFollower.Follower.Calls
import Mathlib.Order.Defs.Unbundled

/-! What work comes to, one equation for each way to put it together, and relations between the
follower before and after it that are kept whatever it comes to. -/
namespace ChainFollower

def Follower.Holds (f : Follower) (place : Place) : Prop :=
  ∀ text, f.fault? place ≠ some (.panic text)

theorem Follower.Holds.of_faults {f g : Follower} {place : Place} (hold : f.Holds place)
    (same : g.faults = f.faults) : g.Holds place := by
  intro text
  unfold fault?
  rw [same]
  exact hold text

namespace Act

variable {α β : Type}

section
variable {σ : Type}

theorem then_apply (work : StateM σ α) (next : α → StateM σ β) (state : σ) :
    (work >>= next) state = next (work state).1 (work state).2 := rfl

theorem run_bind (work : ExceptT Stop (StateM σ) α) (next : α → ExceptT Stop (StateM σ) β)
    (state : σ) :
    (work >>= next).run state =
      match work.run state with
      | (.ok value, after) => (next value).run after
      | (.error stop, after) => (.error stop, after) := by
  rw [ExceptT.run_bind, then_apply]
  rcases work.run state with ⟨stop | value, after⟩ <;> rfl

end

theorem run_tryCatch (work : Act α) (handle : Stop → Act α) (f : Follower) :
    (tryCatch work handle).run f =
      match work.run f with
      | (.ok value, g) => (.ok value, g)
      | (.error stop, g) => (handle stop).run g := by
  rw [ExceptT.run_tryCatch, then_apply]
  rcases work.run f with ⟨stop | value, g⟩ <;> rfl

theorem run_map (change : α → β) (work : Act α) (f : Follower) :
    (change <$> work).run f =
      match work.run f with
      | (.ok value, g) => (.ok (change value), g)
      | (.error stop, g) => (.error stop, g) := by
  rw [map_eq_pure_bind, run_bind]
  rcases work.run f with ⟨stop | value, g⟩ <;> rfl

@[simp] theorem run_pure (value : α) (f : Follower) : (pure value : Act α).run f = (.ok value, f) :=
  rfl

@[simp] theorem run_throw (stop : Stop) (f : Follower) :
    (throw stop : Act α).run f = (.error stop, f) := rfl

@[simp] theorem run_fail (e : SyncError) (f : Follower) :
    (fail e : Act α).run f = (.error (.failed e), f) := rfl

@[simp] theorem run_update (change : Follower → Follower) (f : Follower) :
    (update change).run f = (.ok (), change f) := rfl

@[simp] theorem run_get (f : Follower) : (get : Act Follower).run f = (.ok f, f) := rfl

@[simp] theorem run_set (f g : Follower) : (set g : Act PUnit).run f = (.ok (), g) := rfl

theorem run_fault (place : Place) (f : Follower) :
    (fault place).run f =
      match f.fault? place with
      | some (.panic text) => (.error (.panicked text), f)
      | some (.error e) => (.ok (some e), f)
      | none => (.ok none, f) := by
  unfold fault
  rw [run_bind, run_get]
  dsimp only
  rcases f.fault? place with _ | e | text <;> rfl

theorem run_panicAt (place : Place) (f : Follower) :
    (panicAt place).run f =
      match f.fault? place with
      | some (.panic text) => (.error (.panicked text), f)
      | _ => (.ok (), f) := by
  unfold panicAt
  rw [run_bind, run_fault]
  cases f.fault? place with
  | none => rfl
  | some fault => cases fault <;> rfl

theorem panicAt_cases (place : Place) (f : Follower) :
    f.Holds place ∧ (panicAt place).run f = (.ok (), f) ∨
      ¬ f.Holds place ∧ ∃ text, (panicAt place).run f = (.error (.panicked text), f) := by
  rw [run_panicAt]
  split
  · rename_i text broken
    exact Or.inr ⟨fun hold => hold text broken, text, rfl⟩
  · rename_i other
    exact Or.inl ⟨other, rfl⟩

/-- Work that takes every follower to a related one, whether it comes to an end or stops. -/
def Keeps (related : Follower → Follower → Prop) (work : Act α) : Prop :=
  ∀ f, related f (work.run f).2

section
variable {related : Follower → Follower → Prop}

theorem keeps_update {change : Follower → Follower} (h : ∀ f, related f (change f)) :
    Keeps related (update change) := h

theorem keeps_bind [IsTrans Follower related] {work : Act α} {next : α → Act β}
    (first : Keeps related work) (rest : ∀ value, Keeps related (next value)) :
    Keeps related (work >>= next) := by
  intro f
  have before := first f
  rw [run_bind]
  split
  · rename_i value g h
    rw [h] at before
    exact IsTrans.trans f g _ before (rest value g)
  · rename_i stop g h
    rw [h] at before
    exact before

/-- Work that goes on with what became of the follower. -/
theorem keeps_become [IsTrans Follower related] {after : Follower → Follower}
    {next : Follower → Act β} (step : ∀ f, related f (after f))
    (rest : ∀ f, Keeps related (next f)) :
    Keeps related (do
      let f ← get
      set (after f)
      next f) :=
  fun f => IsTrans.trans f _ _ (step f) (rest f (after f))

variable [Std.Refl related]

theorem keeps_pure (value : α) : Keeps related (pure value : Act α) :=
  fun f => Std.Refl.refl f

theorem keeps_throw (stop : Stop) : Keeps related (throw stop : Act α) :=
  fun f => Std.Refl.refl f

theorem keeps_fail (e : SyncError) : Keeps related (fail e : Act α) :=
  fun f => Std.Refl.refl f

theorem keeps_get : Keeps related get :=
  fun f => Std.Refl.refl f

theorem keeps_fault (place : Place) : Keeps related (fault place) := by
  intro f
  rw [run_fault]
  split <;> exact Std.Refl.refl f

theorem keeps_panicAt (place : Place) : Keeps related (panicAt place) := by
  intro f
  rw [run_panicAt]
  split <;> exact Std.Refl.refl f

theorem keeps_map [IsTrans Follower related] {work : Act α} (change : α → β)
    (h : Keeps related work) : Keeps related (change <$> work) := by
  rw [map_eq_pure_bind]
  exact keeps_bind h (fun value => keeps_pure (change value))

/-- A call that a fault can turn into an error. -/
theorem keeps_orError [IsTrans Follower related] (place : Place)
    {next : Act (Except WalletError α)} (h : Keeps related next) :
    Keeps related (do
      match ← fault place with
      | some e => pure (.error e)
      | none => next) := by
  refine keeps_bind (keeps_fault place) fun found => ?_
  cases found with
  | some e => exact keeps_pure _
  | none => exact h

theorem keeps_call [IsTrans Follower related] {sight : Sight}
    (seen : ∀ f, related f (f.saw sight)) (place : Place) {next : Act (Except WalletError α)}
    (h : Keeps related next) :
    Keeps related (do
      update (fun f => f.saw sight)
      match ← fault place with
      | some e => pure (.error e)
      | none => next) :=
  keeps_bind (keeps_update seen) fun _ => keeps_orError place h

/-- A call that does its work unless something bars it. -/
theorem keeps_orChange [IsTrans Follower related] {bars : Follower → Prop} [DecidablePred bars]
    {e : WalletError} {value : α} {change : Follower → Follower}
    (changes : ∀ f, related f (change f)) :
    Keeps related (do
      if bars (← get) then pure (.error e)
      else
        update change
        pure (.ok value) : Act (Except WalletError α)) := by
  refine keeps_bind keeps_get fun f => ?_
  split
  · exact keeps_pure _
  · exact keeps_bind (keeps_update changes) fun _ => keeps_pure _

end

def StopsBy (allowed : Stop → Prop) (work : Act α) : Prop :=
  ∀ f stop g, work.run f = (.error stop, g) → allowed stop

section
variable {allowed : Stop → Prop}

theorem stopsBy_ok {work : Act α} (never : ∀ f, ∃ value g, work.run f = (.ok value, g)) :
    StopsBy allowed work := by
  intro f stop g stopped
  obtain ⟨value, h, came⟩ := never f
  rw [came] at stopped
  cases (Prod.mk.inj stopped).1

theorem stopsBy_pure (value : α) : StopsBy allowed (pure value : Act α) :=
  stopsBy_ok fun f => ⟨value, f, rfl⟩

theorem stopsBy_update (change : Follower → Follower) : StopsBy allowed (update change) :=
  stopsBy_ok fun f => ⟨(), change f, rfl⟩

theorem stopsBy_get : StopsBy allowed get :=
  stopsBy_ok fun f => ⟨f, f, rfl⟩

theorem stopsBy_set (g : Follower) : StopsBy allowed (set g : Act PUnit) :=
  stopsBy_ok fun _ => ⟨(), g, rfl⟩

theorem stopsBy_throw {stop : Stop} (h : allowed stop) : StopsBy allowed (throw stop : Act α) := by
  intro f other g stopped
  have same : Except.error stop = (Except.error other : Except Stop α) := congrArg Prod.fst stopped
  cases same
  exact h

theorem stopsBy_fail {e : SyncError} (h : allowed (.failed e)) : StopsBy allowed (fail e : Act α) :=
  stopsBy_throw h

theorem stopsBy_bind {work : Act α} {next : α → Act β} (first : StopsBy allowed work)
    (rest : ∀ value, StopsBy allowed (next value)) : StopsBy allowed (work >>= next) := by
  intro f stop g stopped
  rw [run_bind] at stopped
  split at stopped
  · rename_i value h _
    exact rest value h stop g stopped
  · rename_i other h came
    have same : Except.error other = (Except.error stop : Except Stop β) :=
      congrArg Prod.fst stopped
    cases same
    exact first f stop h came

theorem stopsBy_fault (panics : ∀ text, allowed (.panicked text)) (place : Place) :
    StopsBy allowed (fault place) := by
  intro f stop g stopped
  rw [run_fault] at stopped
  split at stopped
  · rename_i text _
    have same : Except.error (Stop.panicked text) =
      (Except.error stop : Except Stop (Option WalletError)) := congrArg Prod.fst stopped
    cases same
    exact panics text
  · cases congrArg Prod.fst stopped
  · cases congrArg Prod.fst stopped

theorem stopsBy_panicAt (panics : ∀ text, allowed (.panicked text)) (place : Place) :
    StopsBy allowed (panicAt place) :=
  stopsBy_bind (stopsBy_fault panics place) fun _ => stopsBy_pure _

end

def Yields (good : α → Prop) (work : Act α) : Prop :=
  ∀ f value g, work.run f = (.ok value, g) → good value

section
variable {good : α → Prop}

theorem yields_pure {value : α} (holds : good value) : Yields good (pure value : Act α) := by
  intro f other g came
  have same : Except.ok value = (Except.ok other : Except Stop α) := congrArg Prod.fst came
  cases same
  exact holds

theorem yields_throw (stop : Stop) : Yields good (throw stop : Act α) := by
  intro f value g came
  cases congrArg Prod.fst came

theorem yields_fail (e : SyncError) : Yields good (fail e : Act α) :=
  yields_throw _

theorem yields_bind {work : Act β} {next : β → Act α} (rest : ∀ value, Yields good (next value)) :
    Yields good (work >>= next) := by
  intro f value g came
  rw [run_bind] at came
  split at came
  · rename_i first h _
    exact rest first h value g came
  · cases congrArg Prod.fst came

theorem yields_map {wide : β → Prop} {work : Act α} {change : α → β} (inner : Yields good work)
    (wider : ∀ value, good value → wide (change value)) : Yields wide (change <$> work) := by
  intro f value g came
  rw [run_map] at came
  split at came
  · rename_i first h done
    cases came
    exact wider first (inner f first _ done)
  · cases congrArg Prod.fst came

end

/-- The work comes to an end if the calls at these places do not panic, and else stops. -/
structure Needs (places : List Place) (work : Act α) : Prop where
  done : ∀ f, (∀ place ∈ places, f.Holds place) →
    ∃ value g, work.run f = (.ok value, g) ∧ g.faults = f.faults
  stopped : ∀ f, ∀ place ∈ places, ¬ f.Holds place → ∃ stop g, work.run f = (.error stop, g)

theorem needs_pure (value : α) : Needs [] (pure value : Act α) :=
  ⟨fun f _ => ⟨value, f, rfl, rfl⟩, fun _ _ member => absurd member List.not_mem_nil⟩

theorem needs_get : Needs [] get :=
  ⟨fun f _ => ⟨f, f, rfl, rfl⟩, fun _ _ member => absurd member List.not_mem_nil⟩

theorem needs_update {change : Follower → Follower} (same : ∀ f, (change f).faults = f.faults) :
    Needs [] (update change) :=
  ⟨fun f _ => ⟨(), change f, rfl, same f⟩, fun _ _ member => absurd member List.not_mem_nil⟩

theorem needs_panicAt (place : Place) : Needs [place] (panicAt place) where
  done f hold := by
    rcases panicAt_cases place f with ⟨_, came⟩ | ⟨breaks, _⟩
    · exact ⟨(), f, came, rfl⟩
    · exact absurd (hold place List.mem_cons_self) breaks
  stopped f other member broken := by
    have same : other = place := List.mem_singleton.mp member
    rcases panicAt_cases place f with ⟨hold, _⟩ | ⟨_, text, came⟩
    · exact absurd hold (same ▸ broken)
    · exact ⟨_, f, came⟩

theorem needs_bind {first rest places : List Place} {work : Act α} {next : α → Act β}
    (before : Needs first work) (after : ∀ value, Needs rest (next value))
    (parts : first ++ rest = places) : Needs places (work >>= next) where
  done f hold := by
    subst parts
    obtain ⟨value, g, came, same⟩ :=
      before.done f fun place member => hold place (List.mem_append_left _ member)
    obtain ⟨value', h, came', same'⟩ := (after value).done g fun place member =>
      (hold place (List.mem_append_right _ member)).of_faults same
    exact ⟨value', h, by rw [run_bind, came]; exact came', same'.trans same⟩
  stopped f place member broken := by
    subst parts
    rw [run_bind]
    cases came : work.run f with
    | mk result g =>
      cases result with
      | error stop => exact ⟨stop, g, rfl⟩
      | ok value =>
        -- The first part came to an end, so that no call in it panicked.
        have hold : ∀ place ∈ first, f.Holds place := by
          intro other inside
          apply Classical.byContradiction
          intro breaks
          obtain ⟨stop, h, stops⟩ := before.stopped f other inside breaks
          rw [came] at stops
          cases congrArg Prod.fst stops
        obtain ⟨_, _, done, same⟩ := before.done f hold
        rw [came] at done
        cases done
        rcases List.mem_append.mp member with inside | inside
        · exact absurd (hold place inside) broken
        · exact (after value).stopped g place inside fun other => broken (other.of_faults same.symm)

end Act

end ChainFollower

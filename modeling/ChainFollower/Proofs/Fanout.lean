import ChainFollower.Follower.Fanout

/-! What sending an event does to a follower, whatever its listeners do when they hear it, and how
often each of them hears it. -/
namespace ChainFollower

def heardBy (position : Nat) (history : List Happening) : List Event :=
  history.filterMap (fun happening =>
    match happening with
    | .heard listener event => if listener = position then some event else none
    | _ => none)

theorem heardBy_append (position : Nat) (new old : List Happening) :
    heardBy position (new ++ old) = heardBy position new ++ heardBy position old :=
  List.filterMap_append

def Happening.Telling (sent : Event → Prop) : Happening → Prop
  | .heard _ event => sent event
  | .logged _ => True
  | _ => False

namespace Event

/-- What listeners hear when one of them cancels the sync. -/
def Nested (heard : Event) : Prop := heard = .synced false

def Sending (event heard : Event) : Prop := heard = event ∨ heard.Nested

theorem nested_unsynced : Nested (.synced false) := rfl

theorem sending_self (event : Event) : event.Sending event := Or.inl rfl

theorem sending_unsynced (event : Event) : event.Sending (.synced false) := Or.inr rfl

end Event

namespace Follower

def hears (f : Follower) (position : Nat) : Bool :=
  f.listeners[position]?.any (fun listener => !listener.silent)

theorem hears_of_grown {f g : Follower}
    (grown : f.listeners.map Listener.silent <+: g.listeners.map Listener.silent) {position : Nat}
    (registered : position < f.listeners.length) : g.hears position = f.hears position := by
  obtain ⟨more, grown⟩ := grown
  have same : (g.listeners.map Listener.silent)[position]? =
      (f.listeners.map Listener.silent)[position]? := by
    rw [← grown, List.getElem?_append_left (by simpa using registered)]
  simp only [List.getElem?_map] at same
  unfold hears
  revert same
  cases g.listeners[position]? <;> cases f.listeners[position]? <;> simp

theorem registered_of_hears {f : Follower} {position : Nat} (hears : f.hears position = true) :
    position < f.listeners.length := by
  unfold Follower.hears at hears
  cases found : f.listeners[position]? with
  | none => simp [found] at hears
  | some listener => exact (List.getElem?_eq_some_iff.mp found).1

/-- `g` is `f` after listeners were told such events. They may have registered others and cancelled
what the session's slot or the rescan's slot has a token for; all else is as it was. -/
def Told (sent : Event → Prop) (f g : Follower) : Prop :=
  ∃ listeners tokens happenings,
    g = { f with
      listeners := listeners
      cancelled := tokens ++ f.cancelled
      history := happenings ++ f.history } ∧
    f.listeners.map Listener.silent <+: listeners.map Listener.silent ∧
    (∀ token ∈ tokens, f.session.token = some token ∨ f.rescanSlot.token = some token) ∧
    ∀ happening ∈ happenings, happening.Telling sent

namespace Told

variable {sent : Event → Prop} {f g h : Follower}

theorem refl (f : Follower) : Told sent f f :=
  ⟨f.listeners, [], [], rfl, List.prefix_refl _, by simp, by simp⟩

theorem trans (first : Told sent f g) (second : Told sent g h) : Told sent f h := by
  obtain ⟨ls, ts, hs, rfl, grown, slots, telling⟩ := first
  obtain ⟨ls', ts', hs', rfl, grown', slots', telling'⟩ := second
  refine ⟨ls', ts' ++ ts, hs' ++ hs, by simp only [List.append_assoc], grown.trans grown', ?_, ?_⟩
  · intro token member
    rcases List.mem_append.mp member with member | member
    · exact slots' token member
    · exact slots token member
  · intro happening member
    rcases List.mem_append.mp member with member | member
    · exact telling' happening member
    · exact telling happening member

theorem mono {wide : Event → Prop} (told : Told sent f g)
    (wider : ∀ event, sent event → wide event) : Told wide f g := by
  obtain ⟨ls, ts, hs, same, grown, slots, telling⟩ := told
  refine ⟨ls, ts, hs, same, grown, slots, fun happening member => ?_⟩
  have kind := telling happening member
  cases happening with
  | heard position event => exact wider event kind
  | logged record => trivial
  | _ => exact kind.elim

theorem note (f : Follower) (happening : Happening) (kind : happening.Telling sent) :
    Told sent f (f.note happening) :=
  ⟨f.listeners, [], [happening], rfl, List.prefix_refl _, by simp, by simpa using kind⟩

theorem log (f : Follower) (record : LogRecord) : Told sent f (f.log record) :=
  note f (.logged record) trivial

theorem addListener (f : Follower) (listener : Listener) :
    Told sent f (f.addListener listener) := by
  refine trans ⟨f.listeners ++ [listener], [], [], rfl, ?_, by simp, by simp⟩ (log _ _)
  exact ⟨[listener.silent], by simp⟩

theorem cancel {token : Token}
    (held : f.session.token = some token ∨ f.rescanSlot.token = some token) :
    Told sent f (f.cancel token) :=
  ⟨f.listeners, [token], [], rfl, List.prefix_refl _, by simpa using held, by simp⟩

theorem cancelSession (f : Follower) : Told sent f f.cancelSession := by
  unfold Follower.cancelSession
  split
  · rename_i token held
    exact (log f .cancellingSync).trans (cancel (Or.inl held))
  · exact refl f

theorem cancelRescan (f : Follower) : Told sent f f.cancelRescan := by
  unfold Follower.cancelRescan
  split
  · rename_i token held
    exact (log f .rescanCancelling).trans (cancel (Or.inr held))
  · exact refl f

theorem silence_set {listeners : List Listener} {position : Nat} {listener : Listener}
    (found : listeners[position]? = some listener) (reactions : List Reaction) :
    (listeners.set position { listener with reactions := reactions }).map Listener.silent =
      listeners.map Listener.silent := by
  obtain ⟨inside, rfl⟩ := List.getElem?_eq_some_iff.mp found
  rw [List.map_set]
  have inMap : position < (listeners.map Listener.silent).length := by simpa using inside
  simpa using List.set_getElem_self inMap

/-- A listener that registers another and leaves reactions to it changes only who has them. -/
theorem recruit (f : Follower) (position heirs : Nat) : Told sent f (f.recruit position heirs) := by
  unfold Follower.recruit
  split
  · exact addListener f _
  · rename_i listener found
    have silence := silence_set found (listener.reactions.drop heirs)
    refine trans ⟨_, [], [], rfl, ?_, by simp, by simp⟩ (addListener _ _)
    exact silence ▸ List.prefix_refl _

/-- A reaction that is taken leaves everything but the reactions of its listener. -/
theorem nextAction {position : Nat} {callback : Callback} {action : Action}
    (taken : f.nextAction position callback = some (action, g)) : Told sent f g := by
  unfold Follower.nextAction at taken
  split at taken
  · contradiction
  · rename_i listener found
    obtain ⟨rest, _, same⟩ := Option.map_eq_some_iff.mp taken
    obtain ⟨_, rfl⟩ := Prod.mk.inj same
    have silence := silence_set found rest.2
    exact ⟨_, [], [], rfl, silence ▸ List.prefix_refl _, by simp, by simp⟩

theorem react {call : Follower → Follower} (calls : ∀ f, Told sent f (call f)) (position : Nat)
    (callback : Callback) (fuel : Nat) (f : Follower) :
    Told sent f (react call position callback fuel f) := by
  induction fuel generalizing f with
  | zero => exact refl f
  | succ fuel ih =>
    unfold Follower.react
    split
    · exact refl f
    · rename_i g taken
      exact nextAction taken
    · rename_i g taken
      exact (nextAction taken).trans (log g _)
    · rename_i heirs g taken
      exact (nextAction taken).trans ((recruit g position heirs).trans (ih _))
    · rename_i g taken
      exact (nextAction taken).trans ((calls g).trans (ih _))
    · rename_i g taken
      exact (nextAction taken).trans ((cancelRescan g).trans (ih _))

theorem tell {call : Follower → Follower} {event : Event} (calls : ∀ f, Told sent f (call f))
    (told : sent event) (f : Follower) (position : Nat) :
    Told sent f (f.tell call event position) := by
  unfold Follower.tell
  split
  · exact refl f
  · split
    · exact refl f
    · exact (note f (.heard position event) told).trans (react calls _ _ _ _)

theorem tellEach {call : Follower → Follower} {event : Event} (calls : ∀ f, Told sent f (call f))
    (told : sent event) (positions : List Nat) (f : Follower) :
    Told sent f (positions.foldl (Follower.tell call event) f) := by
  induction positions generalizing f with
  | nil => exact refl f
  | cons position rest ih => exact (tell calls told f position).trans (ih _)

theorem tellAll {call : Follower → Follower} {event : Event} (calls : ∀ f, Told sent f (call f))
    (told : sent event) (f : Follower) : Told sent f (f.tellAll call event) :=
  tellEach calls told _ f

theorem broadcastWithin {event : Event} (told : sent event) (nested : sent (.synced false))
    (depth : Nat) (f : Follower) : Told sent f (f.broadcastWithin depth event) := by
  induction depth generalizing event f with
  | zero => exact tellAll cancelSession told f
  | succ depth ih => exact tellAll (fun f => (cancelSession f).trans (ih nested _)) told f

/-- Whatever the listeners do, sending an event leaves all but listeners, tokens and history. -/
theorem broadcast (event : Event) (f : Follower) : Told event.Sending f (f.broadcast event) :=
  broadcastWithin event.sending_self event.sending_unsynced _ f

theorem cancelSync (f : Follower) : Told Event.Nested f f.cancelSync :=
  (cancelSession f).trans (broadcastWithin Event.nested_unsynced Event.nested_unsynced _ _)

theorem hears_eq (told : Told sent f g) {position : Nat}
    (registered : position < f.listeners.length) : g.hears position = f.hears position := by
  obtain ⟨ls, ts, hs, rfl, grown, _, _⟩ := told
  exact hears_of_grown grown registered

theorem heardBy_filter (told : Told sent f g) {keep : Event → Bool}
    (others : ∀ event, sent event → keep event = false) (position : Nat) :
    (heardBy position g.history).filter keep = (heardBy position f.history).filter keep := by
  obtain ⟨ls, ts, hs, rfl, _, _, telling⟩ := told
  have none : (heardBy position hs).filter keep = [] := by
    rw [List.filter_eq_nil_iff]
    intro event member
    obtain ⟨happening, inside, same⟩ := List.mem_filterMap.mp member
    have kind := telling happening inside
    cases happening with
    | heard listener heard =>
      simp only [Option.ite_none_right_eq_some, Option.some.injEq] at same
      simp [others event (same.2 ▸ kind)]
    | _ => contradiction
  simp only [heardBy_append, List.filter_append, none, List.nil_append]

end Told

section
variable {keep : Event → Bool} {call : Follower → Follower}

/-- Telling one listener adds the event to what it heard, and nothing to what another heard. -/
theorem heardBy_tell (unheard : keep (.synced false) = false)
    (calls : ∀ f, Told Event.Nested f (call f)) (event : Event) (f : Follower)
    (told position : Nat) :
    (heardBy position (f.tell call event told).history).filter keep =
      (if told = position ∧ f.hears position then [event].filter keep else []) ++
        (heardBy position f.history).filter keep := by
  unfold Follower.tell hears
  split
  · rename_i absent
    by_cases here : told = position
    · simp [← here, absent]
    · simp [here]
  · rename_i listener found
    split
    · rename_i silent
      by_cases here : told = position
      · simp [← here, found, silent]
      · simp [here]
    · rename_i speaks
      have after := Told.react calls told event.callback listener.reactions.length
        (f.note (.heard told event))
      rw [after.heardBy_filter (by rintro _ rfl; exact unheard)]
      by_cases here : told = position
      · simp [← here, found, speaks, note, heardBy, List.filter_cons]
        split <;> simp
      · simp [here, note, heardBy]

theorem heardBy_tellAll (unheard : keep (.synced false) = false)
    (calls : ∀ f, Told Event.Nested f (call f)) (event : Event) (f : Follower)
    (position : Nat) :
    (heardBy position (f.tellAll call event).history).filter keep =
      (if f.hears position then [event].filter keep else []) ++
        (heardBy position f.history).filter keep := by
  have wide : ∀ g, Told event.Sending g (call g) := fun g => (calls g).mono fun _ => Or.inr
  -- Told in order, the listeners before position `n` have heard the event and no others have.
  have upTo : ∀ n, n ≤ f.listeners.length →
      (heardBy position ((List.range n).foldl (tell call event) f).history).filter keep =
        (if position < n ∧ f.hears position then [event].filter keep else []) ++
          (heardBy position f.history).filter keep := by
    intro n bound
    induction n with
    | zero => simp
    | succ n ih =>
      have before : Told event.Sending f ((List.range n).foldl (tell call event) f) :=
        Told.tellEach wide event.sending_self _ f
      rw [List.range_succ, List.foldl_append, List.foldl_cons, List.foldl_nil,
        heardBy_tell unheard calls, ih (by omega)]
      by_cases here : n = position
      · subst here
        have registered : n < f.listeners.length := by omega
        simp [before.hears_eq registered]
      · have later : position < n + 1 ↔ position < n := by omega
        simp [here, later]
  rw [tellAll, upTo _ (Nat.le_refl _)]
  by_cases registered : position < f.listeners.length
  · simp [registered]
  · simp [registered, hears]

/-- Each listener that is registered when an event is sent hears it once. -/
theorem heardBy_broadcast (unheard : keep (.synced false) = false) (event : Event) (f : Follower)
    (position : Nat) :
    (heardBy position (f.broadcast event).history).filter keep =
      (if f.hears position then [event].filter keep else []) ++
        (heardBy position f.history).filter keep := by
  have nested : ∀ depth g, Told Event.Nested g
      (broadcastWithin depth (.synced false) g.cancelSession) := by
    intro depth g
    refine (Told.cancelSession g).trans ?_
    exact Told.broadcastWithin Event.nested_unsynced Event.nested_unsynced depth _
  unfold broadcast
  cases f.reactionCount with
  | zero => exact heardBy_tellAll unheard Told.cancelSession event f position
  | succ depth => exact heardBy_tellAll unheard (nested depth) event f position

end

end Follower

end ChainFollower

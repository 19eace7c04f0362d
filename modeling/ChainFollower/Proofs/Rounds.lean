import ChainFollower.Proofs.Reactions

/-! The calls that an event leads to: every listener is called in turn, and what it does in its
callback may send events of its own. What is sent, and in which order, is read off these calls. -/
namespace ChainFollower

mutual
inductive Round where
  | over
  | call (position : Nat) (conduct : Conduct) (rest : Round)

inductive Conduct where
  | returns
  | panics
  | registers (rest : Conduct)
  | cancelsSync (nested : Round) (rest : Conduct)
  | cancelsRescan (rest : Conduct)
end

def Round.positions : Round → List Nat
  | .over => []
  | .call position _ rest => position :: rest.positions

mutual
def Round.grown : Round → Nat
  | .over => 0
  | .call _ conduct rest => conduct.grown + rest.grown

def Conduct.grown : Conduct → Nat
  | .returns => 0
  | .panics => 0
  | .registers rest => 1 + rest.grown
  | .cancelsSync nested rest => nested.grown + rest.grown
  | .cancelsRescan rest => rest.grown
end

mutual
/-- An event that is sent from inside a callback goes to all that are registered when that happens;
so many are when the round begins. -/
def Round.Exact : Round → Nat → Prop
  | .over, _ => True
  | .call _ conduct rest, registered =>
    conduct.Exact registered ∧ rest.Exact (registered + conduct.grown)

def Conduct.Exact : Conduct → Nat → Prop
  | .returns, _ => True
  | .panics, _ => True
  | .registers rest, registered => rest.Exact (registered + 1)
  | .cancelsSync nested rest, registered =>
    nested.positions = List.range registered ∧ nested.Exact registered ∧
      rest.Exact (registered + nested.grown)
  | .cancelsRescan rest, registered => rest.Exact registered
end

mutual
/-- What listeners hear during a round and what the log has of it, the first first. `ears` says of
each listener whether it has callbacks. -/
def Round.tale : Round → Event → List Bool → List Happening
  | .over, _, _ => []
  | .call position conduct rest, event, ears =>
    (if ears[position]? = some true then [.heard position event] else []) ++
      conduct.tale position ears ++
      rest.tale event (ears ++ List.replicate conduct.grown true)

def Conduct.tale : Conduct → Nat → List Bool → List Happening
  | .returns, _, _ => []
  | .panics, position, _ => [.logged (.listenerPanicked (Listener.name position))]
  | .registers rest, position, ears =>
    .logged (.listenerAdded (ears.length + 1)) :: rest.tale position (ears ++ [true])
  | .cancelsSync nested rest, position, ears =>
    nested.tale (.synced false) ears ++
      rest.tale position (ears ++ List.replicate nested.grown true)
  | .cancelsRescan rest, position, ears => rest.tale position ears
end

def Happening.inTale : Happening → Bool
  | .heard _ _ => true
  | .logged (.listenerPanicked _) => true
  | .logged (.listenerAdded _) => true
  | _ => false

theorem takeReaction_sublist {callback : Callback} {reactions rest : List Reaction}
    {action : Action} (taken : Listener.takeReaction callback reactions = some (action, rest)) :
    rest.Sublist reactions := by
  induction reactions generalizing rest with
  | nil => contradiction
  | cons reaction others ih =>
    unfold Listener.takeReaction at taken
    split at taken
    · cases taken
      exact List.sublist_cons_self _ _
    · obtain ⟨found, here, same⟩ := Option.map_eq_some_iff.mp taken
      cases same
      exact (ih here).cons_cons reaction

namespace Follower

def tale (f : Follower) : List Happening :=
  (f.history.filter Happening.inTale).reverse

def ears (f : Follower) : List Bool :=
  (f.listeners.map Listener.silent).map not

mutual
inductive Sends : Event → Round → Follower → Follower → Prop
  | over (event : Event) (f : Follower) : Sends event .over f f
  | unheard {event : Event} {position : Nat} {rest : Round} {f g : Follower}
      (deaf : f.hears position = false) (others : Sends event rest f g) :
      Sends event (.call position .returns rest) f g
  | heard {event : Event} {position : Nat} {conduct : Conduct} {rest : Round} {f g h : Follower}
      (hears : f.hears position = true)
      (acts : Acts position event.callback conduct (f.note (.heard position event)) g)
      (others : Sends event rest g h) : Sends event (.call position conduct rest) f h

inductive Acts : Nat → Callback → Conduct → Follower → Follower → Prop
  | idle {position : Nat} {callback : Callback} {f : Follower}
      (none : f.nextAction position callback = none) : Acts position callback .returns f f
  | leaves {position : Nat} {callback : Callback} {f g : Follower}
      (taken : f.nextAction position callback = some (.leave, g)) :
      Acts position callback .returns f g
  | panics {position : Nat} {callback : Callback} {f g : Follower}
      (taken : f.nextAction position callback = some (.panic, g)) :
      Acts position callback .panics f (g.log (.listenerPanicked (Listener.name position)))
  | registers {position heirs : Nat} {callback : Callback} {rest : Conduct} {f g h : Follower}
      (taken : f.nextAction position callback = some (.addListener heirs, g))
      (acts : Acts position callback rest (g.recruit position heirs) h) :
      Acts position callback (.registers rest) f h
  | cancelsSync {position : Nat} {callback : Callback} {nested : Round} {rest : Conduct}
      {f g h k : Follower} (taken : f.nextAction position callback = some (.cancelSync, g))
      (everyone : nested.positions = List.range g.listeners.length)
      (sends : Sends (.synced false) nested g.cancelSession h)
      (acts : Acts position callback rest h k) :
      Acts position callback (.cancelsSync nested rest) f k
  | cancelsRescan {position : Nat} {callback : Callback} {rest : Conduct} {f g h : Follower}
      (taken : f.nextAction position callback = some (.cancelRescan, g))
      (acts : Acts position callback rest g.cancelRescan h) :
      Acts position callback (.cancelsRescan rest) f h
end

theorem cancelSession_listeners (f : Follower) : f.cancelSession.listeners = f.listeners := by
  unfold cancelSession
  split <;> rfl

theorem cancelRescan_listeners (f : Follower) : f.cancelRescan.listeners = f.listeners := by
  unfold cancelRescan
  split <;> rfl

/-- The listeners stay where they are and lose nothing but reactions; others may follow them. -/
def Retains (f g : Follower) : Prop :=
  ∀ (position : Nat) (listener : Listener), f.listeners[position]? = some listener →
    ∃ reactions : List Reaction, reactions.Sublist listener.reactions ∧
      g.listeners[position]? = some { listener with reactions := reactions }

namespace Retains

variable {f g h : Follower}

theorem of_same (same : g.listeners = f.listeners) : Retains f g := by
  intro position listener found
  exact ⟨listener.reactions, List.Sublist.refl _, same ▸ found⟩

theorem trans (first : Retains f g) (second : Retains g h) : Retains f h := by
  intro position listener found
  obtain ⟨some, fewer, kept⟩ := first position listener found
  obtain ⟨left, fewest, still⟩ := second position _ kept
  exact ⟨left, fewest.trans fewer, still⟩

theorem register (f : Follower) (listener : Listener) : Retains f (f.addListener listener) := by
  intro position found here
  have inside := (List.getElem?_eq_some_iff.mp here).1
  refine ⟨found.reactions, List.Sublist.refl _, ?_⟩
  exact (List.getElem?_append_left inside).trans here

theorem set {position : Nat} {listener : Listener} {reactions : List Reaction}
    (found : f.listeners[position]? = some listener)
    (fewer : reactions.Sublist listener.reactions) :
    Retains f { f with
      listeners := f.listeners.set position { listener with reactions := reactions } } := by
  intro other kept here
  by_cases same : position = other
  · subst same
    cases found.symm.trans here
    have inside := (List.getElem?_eq_some_iff.mp here).1
    exact ⟨reactions, fewer, List.getElem?_set_self inside⟩
  · refine ⟨kept.reactions, List.Sublist.refl _, ?_⟩
    exact (List.getElem?_set_ne same).trans here

theorem recruit (f : Follower) (position heirs : Nat) : Retains f (f.recruit position heirs) := by
  unfold Follower.recruit
  split
  · exact register f _
  · rename_i listener found
    exact (set found (List.drop_sublist _ _)).trans (register _ _)

theorem cancelSession (f : Follower) : Retains f f.cancelSession :=
  of_same f.cancelSession_listeners

theorem cancelRescan (f : Follower) : Retains f f.cancelRescan :=
  of_same f.cancelRescan_listeners

theorem length_le (retains : Retains f g) : f.listeners.length ≤ g.listeners.length := by
  by_contra fewer
  obtain ⟨_, _, kept⟩ := retains g.listeners.length _ (List.getElem?_eq_getElem (by omega))
  have inside := (List.getElem?_eq_some_iff.mp kept).1
  omega

theorem ears_getElem (retains : Retains f g) {position : Nat}
    (registered : position < f.listeners.length) : g.ears[position]? = f.ears[position]? := by
  have found := List.getElem?_eq_getElem registered
  obtain ⟨left, _, kept⟩ := retains position _ found
  simp only [ears, List.getElem?_map, kept, found, Option.map_some]

end Retains

@[simp]
theorem ears_length (f : Follower) : f.ears.length = f.listeners.length := by
  simp [ears]

theorem hears_iff (f : Follower) (position : Nat) :
    f.hears position = true ↔ f.ears[position]? = some true := by
  unfold hears ears
  rw [List.getElem?_map, List.getElem?_map]
  cases f.listeners[position]? with
  | none => simp
  | some listener => simp

theorem Retains.hears_eq {f g : Follower} (retains : Retains f g) {position : Nat}
    (registered : position < f.listeners.length) : g.hears position = f.hears position := by
  rw [Bool.eq_iff_iff, hears_iff, hears_iff, retains.ears_getElem registered]

/-- A reaction that is taken is gone from its listener. -/
theorem nextAction_found {f g : Follower} {position : Nat} {callback : Callback} {action : Action}
    (taken : f.nextAction position callback = some (action, g)) :
    ∃ (listener : Listener) (rest : List Reaction),
      f.listeners[position]? = some listener ∧ rest.length < listener.reactions.length ∧
        rest.Sublist listener.reactions ∧
        g = { f with listeners := f.listeners.set position { listener with reactions := rest } } := by
  unfold nextAction at taken
  split at taken
  · contradiction
  · rename_i listener found
    obtain ⟨⟨done, rest⟩, here, same⟩ := Option.map_eq_some_iff.mp taken
    obtain ⟨rfl, rfl⟩ := Prod.mk.inj same
    have left : listener.reactions.length = rest.length + 1 := by
      simpa using (takeReaction_perm here).length_eq
    exact ⟨listener, rest, found, by omega, takeReaction_sublist here, rfl⟩

theorem Retains.nextAction {f g : Follower} {position : Nat} {callback : Callback}
    {action : Action} (taken : f.nextAction position callback = some (action, g)) :
    Retains f g := by
  obtain ⟨listener, rest, found, _, fewer, rfl⟩ := nextAction_found taken
  exact set found fewer

mutual
theorem Sends.retains {event : Event} {round : Round} {f g : Follower} :
    Sends event round f g → Retains f g
  | .over _ _ => Retains.of_same rfl
  | .unheard _ others => others.retains
  | .heard _ acts others => (acts.retains : Retains f _).trans others.retains

theorem Acts.retains {position : Nat} {callback : Callback} {conduct : Conduct} {f g : Follower} :
    Acts position callback conduct f g → Retains f g
  | .idle _ => Retains.of_same rfl
  | .leaves taken => Retains.nextAction taken
  | .panics taken => (Retains.nextAction taken).trans (Retains.of_same rfl)
  | .registers taken acts =>
    (Retains.nextAction taken).trans ((Retains.recruit _ _ _).trans acts.retains)
  | .cancelsSync taken _ sends acts =>
    (Retains.nextAction taken).trans
      ((Retains.cancelSession _).trans (sends.retains.trans acts.retains))
  | .cancelsRescan taken acts =>
    (Retains.nextAction taken).trans ((Retains.cancelRescan _).trans acts.retains)
end

section
variable {call : Follower → Follower} {depth : Nat}

/-- What a listener does when it is called is a conduct, as long as its calls are rounds. -/
theorem acts_react (fewer : ∀ f, (call f).stock.length ≤ f.stock.length)
    (calls : ∀ f : Follower, f.stock.length < depth → ∃ nested : Round,
      nested.positions = List.range f.listeners.length ∧
        Sends (.synced false) nested f.cancelSession (call f))
    (position : Nat) (callback : Callback) (fuel : Nat) {f : Follower} {listener : Listener}
    (found : f.listeners[position]? = some listener) (enough : listener.reactions.length ≤ fuel)
    (bound : f.stock.length ≤ depth) :
    ∃ conduct, Acts position callback conduct f (react call position callback fuel f) := by
  induction fuel generalizing f listener with
  | zero =>
    have nothing : listener.reactions = [] := List.length_eq_zero_iff.mp (by omega)
    refine ⟨.returns, .idle ?_⟩
    simp [nextAction, found, nothing, Listener.takeReaction]
  | succ fuel ih =>
    cases taken : f.nextAction position callback with
    | none =>
      refine ⟨.returns, ?_⟩
      simp only [react, taken]
      exact .idle taken
    | some done =>
      obtain ⟨action, g⟩ := done
      obtain ⟨_, rest, same, shorter, _, changed⟩ := nextAction_found taken
      cases found.symm.trans same
      have lost : f.stock.length = g.stock.length + 1 := (nextAction_cases taken).1.length_eq
      have kept : g.listeners[position]? = some { listener with reactions := rest } := by
        rw [changed]
        exact List.getElem?_set_self (List.getElem?_eq_some_iff.mp found).1
      -- Whatever the listener does next, it has less in store than fuel is left.
      have onward {h : Follower} (retains : Retains g h) (less : h.stock.length ≤ g.stock.length) :
          ∃ conduct, Acts position callback conduct h (react call position callback fuel h) := by
        obtain ⟨left, fewest, still⟩ := retains position _ kept
        have shortest : left.length ≤ rest.length := fewest.length_le
        have few : left.length ≤ fuel := by omega
        exact ih still few (by omega)
      simp only [react, taken]
      cases action with
      | leave => exact ⟨.returns, .leaves taken⟩
      | panic => exact ⟨.panics, .panics taken⟩
      | addListener heirs =>
        have stock := (stock_recruit g position heirs).length_eq
        obtain ⟨conduct, acts⟩ := onward (Retains.recruit g position heirs) (by omega)
        exact ⟨.registers conduct, .registers taken acts⟩
      | cancelSync =>
        obtain ⟨nested, everyone, sends⟩ := calls g (by omega)
        have retains := (Retains.cancelSession g).trans sends.retains
        obtain ⟨conduct, acts⟩ := onward retains (fewer g)
        exact ⟨.cancelsSync nested conduct, .cancelsSync taken everyone sends acts⟩
      | cancelRescan =>
        have stock := (Cancels.cancelRescan g).stock.length_le
        obtain ⟨conduct, acts⟩ := onward (Retains.cancelRescan g) stock
        exact ⟨.cancelsRescan conduct, .cancelsRescan taken acts⟩

theorem sends_tell (cancels : ∀ f, Cancels True False f (call f))
    (calls : ∀ f : Follower, f.stock.length < depth → ∃ nested : Round,
      nested.positions = List.range f.listeners.length ∧
        Sends (.synced false) nested f.cancelSession (call f))
    (event : Event) (positions : List Nat) {f : Follower}
    (registered : ∀ position ∈ positions, position < f.listeners.length)
    (bound : f.stock.length ≤ depth) :
    ∃ round : Round, round.positions = positions ∧
      Sends event round f (positions.foldl (tell call event) f) := by
  have less (g : Follower) : (call g).stock.length ≤ g.stock.length := (cancels g).stock.length_le
  induction positions generalizing f with
  | nil => exact ⟨.over, rfl, .over event f⟩
  | cons position rest ih =>
    have inside := registered position List.mem_cons_self
    have found := List.getElem?_eq_getElem inside
    -- The others are told whatever this one does.
    have others {g : Follower} (retains : Retains f g) (less : g.stock.length ≤ depth) :
        ∃ round : Round, round.positions = rest ∧
          Sends event round g (rest.foldl (tell call event) g) := by
      refine ih (fun other member => ?_) less
      obtain ⟨_, _, still⟩ := retains other _
        (List.getElem?_eq_getElem (registered other (List.mem_cons_of_mem _ member)))
      exact (List.getElem?_eq_some_iff.mp still).1
    rw [List.foldl_cons]
    by_cases silent : f.listeners[position].silent = true
    · have deaf : f.hears position = false := by simp [hears, found, silent]
      have same : f.tell call event position = f := by simp [tell, found, silent]
      rw [same]
      obtain ⟨round, positions, sends⟩ := others (Retains.of_same rfl) bound
      exact ⟨.call position .returns round, congrArg _ positions, .unheard deaf sends⟩
    · have hears : f.hears position = true := by simpa [hears, found] using silent
      obtain ⟨conduct, acts⟩ := acts_react less calls position event.callback
        f.listeners[position].reactions.length (f := f.note (.heard position event)) found
        (Nat.le_refl _) bound
      have told : f.tell call event position = react call position event.callback
          f.listeners[position].reactions.length (f.note (.heard position event)) := by
        simp [tell, found, silent]
      have stock := (Cancels.tell cancels event f position).stock.length_le
      rw [told] at stock ⊢
      obtain ⟨round, positions, sends⟩ := others acts.retains (by omega)
      exact ⟨.call position conduct round, congrArg _ positions, .heard hears acts sends⟩

end

theorem sends_broadcastWithin (event : Event) {depth : Nat} {f : Follower}
    (bound : f.stock.length ≤ depth) :
    ∃ round : Round, round.positions = List.range f.listeners.length ∧
      Sends event round f (f.broadcastWithin depth event) := by
  induction depth generalizing event f with
  | zero =>
    -- Nobody has anything in store, so that no event is sent from inside a callback.
    exact sends_tell Cancels.cancelSession (fun g none => absurd none (Nat.not_lt_zero _)) event _
      (fun position member => List.mem_range.mp member) bound
  | succ depth ih =>
    have cancels (g : Follower) :
        Cancels True False g (broadcastWithin depth (.synced false) g.cancelSession) :=
      (Cancels.cancelSession g).heed (Cancels.broadcastWithin _ _ _)
    refine sends_tell cancels (fun g fewer => ?_) event _
      (fun position member => List.mem_range.mp member) bound
    have less := (Cancels.cancelSession g).stock.length_le
    obtain ⟨nested, everyone, sends⟩ := ih (.synced false) (f := g.cancelSession) (by omega)
    exact ⟨nested, by rw [everyone, cancelSession_listeners], sends⟩

/-- Whoever is registered when an event is sent is called, whatever happens in the calls. -/
theorem sends_broadcast (event : Event) (f : Follower) :
    ∃ round : Round, round.positions = List.range f.listeners.length ∧
      Sends event round f (f.broadcast event) :=
  sends_broadcastWithin event (Nat.le_of_eq f.reactionCount_eq.symm)

structure Recounts (tale : List Happening) (grown : Nat) (f g : Follower) : Prop where
  ears : g.ears = f.ears ++ List.replicate grown true
  tale : g.tale = f.tale ++ tale

namespace Recounts

variable {tale tale' : List Happening} {grown grown' : Nat} {f g h : Follower}

theorem of_untold (ears : g.ears = f.ears)
    (untold : g.history.filter Happening.inTale = f.history.filter Happening.inTale) :
    Recounts [] 0 f g := by
  constructor
  · simp [ears]
  · simp [Follower.tale, untold]

theorem ears_kept (kept : Recounts tale 0 f g) : g.ears = f.ears := by
  rw [kept.ears, List.replicate_zero, List.append_nil]

theorem trans (first : Recounts tale grown f g) (second : Recounts tale' grown' g h) :
    Recounts (tale ++ tale') (grown + grown') f h := by
  constructor
  · rw [second.ears, first.ears, List.append_assoc, List.replicate_append_replicate]
  · rw [second.tale, first.tale, List.append_assoc]

theorem note (f : Follower) {happening : Happening} (told : happening.inTale = true) :
    Recounts [happening] 0 f (f.note happening) := by
  constructor
  · simp [Follower.ears, Follower.note]
  · simp [Follower.tale, Follower.note, told]

theorem set {position : Nat} {listener : Listener}
    (found : f.listeners[position]? = some listener) (reactions : List Reaction) :
    Recounts [] 0 f { f with
      listeners := f.listeners.set position { listener with reactions := reactions } } :=
  of_untold (congrArg (List.map not) (Told.silence_set found reactions)) rfl

theorem nextAction {position : Nat} {callback : Callback} {action : Action}
    (taken : f.nextAction position callback = some (action, g)) : Recounts [] 0 f g := by
  obtain ⟨listener, rest, found, _, _, rfl⟩ := nextAction_found taken
  exact set found rest

theorem register (f : Follower) (reactions : List Reaction) :
    Recounts [.logged (.listenerAdded (f.ears.length + 1))] 1 f
      (f.addListener ⟨false, reactions⟩) := by
  constructor
  · simp [Follower.ears, addListener, Follower.register, log, Follower.note]
  · simp [Follower.tale, Follower.ears, addListener, Follower.register, log, Follower.note,
      List.filter_cons, Happening.inTale]

theorem recruit (f : Follower) (position heirs : Nat) :
    Recounts [.logged (.listenerAdded (f.ears.length + 1))] 1 f (f.recruit position heirs) := by
  unfold Follower.recruit
  split
  · exact register f []
  · rename_i listener found
    have kept := set found (listener.reactions.drop heirs)
    have added := kept.trans (register _ (listener.reactions.take heirs))
    rw [kept.ears_kept] at added
    exact added

theorem cancelSession (f : Follower) : Recounts [] 0 f f.cancelSession := by
  unfold Follower.cancelSession
  split <;> exact of_untold rfl rfl

theorem cancelRescan (f : Follower) : Recounts [] 0 f f.cancelRescan := by
  unfold Follower.cancelRescan
  split <;> exact of_untold rfl rfl

end Recounts

mutual
/-- A round is told as it was, and all that it sent went to those registered then. -/
theorem Sends.recounts {event : Event} {round : Round} {f g : Follower} :
    Sends event round f g →
      Recounts (round.tale event f.ears) round.grown f g ∧ round.Exact f.ears.length
  | .over _ _ => ⟨Recounts.of_untold rfl rfl, trivial⟩
  | @Sends.unheard _ position rest f g deaf others => by
    obtain ⟨after, exact⟩ := others.recounts
    have unheard : ¬ f.ears[position]? = some true := by simp [← hears_iff, deaf]
    simp only [Round.tale, Round.grown, Round.Exact, Conduct.tale, Conduct.grown, Conduct.Exact,
      if_neg unheard, List.replicate_zero, List.append_nil, List.nil_append, Nat.zero_add,
      Nat.add_zero, true_and]
    exact ⟨after, exact⟩
  | @Sends.heard event position conduct rest f g h hears acts others => by
    obtain ⟨during, inside⟩ := acts.recounts
    obtain ⟨after, exact⟩ := others.recounts
    rw [during.ears] at after exact
    have told : Recounts [.heard position event] 0 f (f.note (.heard position event)) :=
      Recounts.note f rfl
    have whole := told.trans (during.trans after)
    rw [told.ears_kept] at inside exact whole
    rw [List.length_append, List.length_replicate] at exact
    simp only [Round.tale, if_pos ((hears_iff f position).mp hears), List.append_assoc]
    rw [Nat.zero_add] at whole
    exact ⟨whole, inside, exact⟩

theorem Acts.recounts {position : Nat} {callback : Callback} {conduct : Conduct} {f g : Follower} :
    Acts position callback conduct f g →
      Recounts (conduct.tale position f.ears) conduct.grown f g ∧ conduct.Exact f.ears.length
  | .idle _ => ⟨Recounts.of_untold rfl rfl, trivial⟩
  | .leaves taken => ⟨Recounts.nextAction taken, trivial⟩
  | .panics taken => ⟨(Recounts.nextAction taken).trans (Recounts.note _ rfl), trivial⟩
  | @Acts.registers position heirs _ rest f g h taken acts => by
    have taken := Recounts.nextAction taken
    have added := Recounts.recruit g position heirs
    obtain ⟨after, exact⟩ := acts.recounts
    have whole := taken.trans (added.trans after)
    rw [added.ears, taken.ears_kept] at whole exact
    rw [List.length_append] at exact
    rw [Nat.zero_add] at whole
    exact ⟨whole, exact⟩
  | @Acts.cancelsSync position _ nested rest f g h k taken everyone sends acts => by
    have before : Recounts [] 0 f g.cancelSession :=
      (Recounts.nextAction taken).trans (Recounts.cancelSession g)
    obtain ⟨during, inside⟩ := sends.recounts
    obtain ⟨after, exact⟩ := acts.recounts
    have whole := before.trans (during.trans after)
    rw [during.ears] at whole exact
    rw [before.ears_kept] at whole exact inside
    rw [List.length_append, List.length_replicate] at exact
    rw [Nat.zero_add] at whole
    refine ⟨whole, ?_, inside, exact⟩
    rw [everyone, ← ears_length, (Recounts.nextAction taken).ears_kept]
  | @Acts.cancelsRescan position _ rest f g h taken acts => by
    have before : Recounts [] 0 f g.cancelRescan :=
      (Recounts.nextAction taken).trans (Recounts.cancelRescan g)
    obtain ⟨after, exact⟩ := acts.recounts
    have whole := before.trans after
    rw [before.ears_kept] at whole exact
    rw [Nat.zero_add] at whole
    exact ⟨whole, exact⟩
end

end Follower

end ChainFollower

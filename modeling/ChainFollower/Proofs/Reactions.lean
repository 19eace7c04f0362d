import ChainFollower.Proofs.Elsewhere
import Mathlib.Data.List.Perm.Subperm

/-! What listeners do when they hear an event: each reaction is done once, so that the calls they made
can be told from the reactions that are left. From this come the tokens that sending an event cancels,
and how often listeners hear that the wallet is not synced. -/
namespace ChainFollower

def Listener.actions (listener : Listener) : List Action :=
  listener.reactions.map Reaction.action

namespace Follower

def stock (f : Follower) : List Action :=
  f.listeners.flatMap Listener.actions

def Takes (action : Action) (f g : Follower) : Prop :=
  g.stock.count action < f.stock.count action

theorem stock_addListener (f : Follower) (listener : Listener) :
    (f.addListener listener).stock = f.stock ++ listener.actions := by
  have grown : (f.addListener listener).listeners = f.listeners ++ [listener] := rfl
  unfold stock
  rw [grown, List.flatMap_append, List.flatMap_singleton]

theorem takeReaction_perm {callback : Callback} {reactions rest : List Reaction} {action : Action}
    (taken : Listener.takeReaction callback reactions = some (action, rest)) :
    (reactions.map Reaction.action).Perm (action :: rest.map Reaction.action) := by
  induction reactions generalizing rest with
  | nil => contradiction
  | cons reaction others ih =>
    unfold Listener.takeReaction at taken
    split at taken
    · cases taken
      exact List.Perm.refl _
    · obtain ⟨found, here, same⟩ := Option.map_eq_some_iff.mp taken
      cases same
      exact ((ih here).cons reaction.action).trans (List.Perm.swap _ _ _)

/-- What one listener loses is taken from the stock. -/
theorem actions_set {listeners : List Listener} {position : Nat} {listener after : Listener}
    {lost : List Action} (found : listeners[position]? = some listener)
    (loses : listener.actions.Perm (lost ++ after.actions)) :
    (listeners.flatMap Listener.actions).Perm
      (lost ++ (listeners.set position after).flatMap Listener.actions) := by
  induction listeners generalizing position with
  | nil => contradiction
  | cons first rest ih =>
    cases position with
    | zero =>
      cases found
      exact List.append_assoc lost _ _ ▸ loses.append_right _
    | succ position =>
      have behind := ih found
      exact (behind.append_left first.actions).trans (List.perm_append_comm_assoc _ _ _)

/-- Reactions that are left to another listener stay in the stock. -/
theorem stock_recruit (f : Follower) (position heirs : Nat) :
    (f.recruit position heirs).stock.Perm f.stock := by
  unfold recruit
  split
  · rw [stock_addListener]
    exact (List.append_nil _).symm ▸ List.Perm.refl _
  · rename_i listener found
    rw [stock_addListener]
    refine List.perm_append_comm.trans (actions_set found ?_).symm
    simp only [Listener.actions, ← List.map_append, List.take_append_drop]
    exact List.Perm.refl _

/-- A reaction that is taken is gone, and nothing else. -/
theorem nextAction_cases {f g : Follower} {position : Nat} {callback : Callback} {action : Action}
    (taken : f.nextAction position callback = some (action, g)) :
    f.stock.Perm (action :: g.stock) ∧ ∃ listeners, g = { f with listeners := listeners } := by
  unfold nextAction at taken
  split at taken
  · contradiction
  · rename_i listener found
    obtain ⟨⟨done, rest⟩, here, same⟩ := Option.map_eq_some_iff.mp taken
    obtain ⟨rfl, rfl⟩ := Prod.mk.inj same
    have loses : listener.actions.Perm
        ([done] ++ Listener.actions { listener with reactions := rest }) := takeReaction_perm here
    exact ⟨actions_set found loses, _, rfl⟩

theorem nextAction_count {f g : Follower} {position : Nat} {callback : Callback}
    {done : Action} (taken : f.nextAction position callback = some (done, g)) (action : Action) :
    f.stock.count action = g.stock.count action + if done = action then 1 else 0 := by
  rw [(nextAction_cases taken).1.count_eq, List.count_cons]
  simp only [beq_iff_eq]

/-- The tokens that were cancelled since `f`: what the session holds, if `sync` or if a listener
called for that, and what the rescan's slot has, if `rescan` or if a listener called for that. -/
structure Marks (held : Option Token) (sync rescan : Prop) (f g : Follower) : Prop where
  shutdown : g.shutdown = f.shutdown
  cancelled : ∀ token, token ∈ g.cancelled ↔ token ∈ f.cancelled ∨
    held = some token ∧ (sync ∨ Takes .cancelSync f g) ∨
    f.rescanSlot.token = some token ∧ (rescan ∨ Takes .cancelRescan f g)

structure Cancels (sync rescan : Prop) (f g : Follower) : Prop
    extends Marks f.session.token sync rescan f g where
  session : g.session.token = f.session.token
  slot : g.rescanSlot = f.rescanSlot
  stock : g.stock.Subperm f.stock

abbrev Heeds (f g : Follower) : Prop := Cancels False False f g

namespace Cancels

variable {sync rescan sync' rescan' : Prop} {f g h : Follower}

theorem takes_iff (first : Cancels sync rescan f g) (second : Cancels sync' rescan' g h)
    (action : Action) : Takes action f h ↔ Takes action f g ∨ Takes action g h := by
  have before := first.stock.count_le action
  have behind := second.stock.count_le action
  unfold Takes
  omega

theorem of_same
    (rest : (g.session.token, g.rescanSlot, g.shutdown, g.listeners, g.cancelled) =
      (f.session.token, f.rescanSlot, f.shutdown, f.listeners, f.cancelled)) : Heeds f g := by
  obtain ⟨session, slot, shutdown, listeners, cancelled⟩ :
      g.session.token = f.session.token ∧ g.rescanSlot = f.rescanSlot ∧ g.shutdown = f.shutdown ∧
        g.listeners = f.listeners ∧ g.cancelled = f.cancelled := by
    simpa only [Prod.mk.injEq] using rest
  have stock : g.stock = f.stock := congrArg (List.flatMap Listener.actions) listeners
  refine ⟨⟨shutdown, fun token => ?_⟩, session, slot, stock ▸ List.Subperm.refl _⟩
  simp [cancelled, Takes, stock]

theorem refl (f : Follower) : Heeds f f := of_same rfl

theorem trans (first : Cancels sync rescan f g) (second : Cancels sync' rescan' g h) :
    Cancels (sync ∨ sync') (rescan ∨ rescan') f h where
  shutdown := second.shutdown.trans first.shutdown
  cancelled token := by
    rw [second.cancelled, first.cancelled, first.session, first.slot, takes_iff first second,
      takes_iff first second]
    grind
  session := second.session.trans first.session
  slot := second.slot.trans first.slot
  stock := second.stock.trans first.stock

theorem of_iff (cancels : Cancels sync rescan f g) (syncs : sync ↔ sync')
    (rescans : rescan ↔ rescan') : Cancels sync' rescan' f g :=
  propext syncs ▸ propext rescans ▸ cancels

theorem heed (cancels : Cancels sync rescan f g) (heeds : Heeds g h) :
    Cancels sync rescan f h :=
  (cancels.trans heeds).of_iff (or_iff_left id) (or_iff_left id)

theorem heeded (heeds : Heeds f g) (cancels : Cancels sync rescan g h) :
    Cancels sync rescan f h :=
  (heeds.trans cancels).of_iff (or_iff_right id) (or_iff_right id)

theorem note (f : Follower) (happening : Happening) : Heeds f (f.note happening) := of_same rfl

theorem log (f : Follower) (record : LogRecord) : Heeds f (f.log record) := of_same rfl

theorem recruit (f : Follower) (position heirs : Nat) : Heeds f (f.recruit position heirs) := by
  have stock := stock_recruit f position heirs
  obtain ⟨listeners, history, same⟩ : ∃ listeners history, f.recruit position heirs =
      { f with listeners := listeners, history := history } := by
    unfold Follower.recruit
    split <;> exact ⟨_, _, rfl⟩
  rw [same] at stock ⊢
  refine ⟨⟨rfl, fun token => ?_⟩, rfl, rfl, stock.subperm⟩
  simp [Takes, stock.count_eq]

/-- A token that the session holds is cancelled. -/
theorem cancelHeld {token : Token} (held : f.session.token = some token) :
    Cancels True False f (f.cancel token) := by
  refine ⟨⟨rfl, fun other => ?_⟩, rfl, rfl, List.Subperm.refl _⟩
  simp [Follower.cancel, Takes, held, eq_comm, or_comm, Follower.stock]

theorem cancelSlot {token : Token} (held : f.rescanSlot.token = some token) :
    Cancels False True f (f.cancel token) := by
  refine ⟨⟨rfl, fun other => ?_⟩, rfl, rfl, List.Subperm.refl _⟩
  simp [Follower.cancel, Takes, held, eq_comm, or_comm, Follower.stock]

/-- Without a token in the session, a call to cancel the sync cancels none. -/
theorem of_idle (none : f.session.token = none) (heeds : Heeds f g) : Cancels True False f g :=
  { heeds with
    cancelled := fun token => by simp [heeds.cancelled, none] }

theorem of_sameScans (none : f.rescanSlot.token = none) (heeds : Heeds f g) :
    Cancels False True f g :=
  { heeds with
    cancelled := fun token => by simp [heeds.cancelled, none] }

theorem cancelSession (f : Follower) : Cancels True False f f.cancelSession := by
  unfold Follower.cancelSession
  split
  · rename_i token held
    exact (log f .cancellingSync).heeded (cancelHeld held)
  · rename_i none
    exact of_idle none (refl f)

theorem cancelQuietly (f : Follower) : Cancels True False f f.cancelQuietly := by
  unfold Follower.cancelQuietly
  split
  · rename_i token held
    exact cancelHeld held
  · rename_i none
    exact of_idle none (refl f)

theorem cancelRescan (f : Follower) : Cancels False True f f.cancelRescan := by
  unfold Follower.cancelRescan
  split
  · rename_i token held
    exact (log f .rescanCancelling).heeded (cancelSlot held)
  · rename_i none
    exact of_sameScans none (refl f)

/-- A listener acts by a reaction that it had in store. -/
theorem acted {position : Nat} {callback : Callback} {action : Action}
    (taken : f.nextAction position callback = some (action, g))
    (acts : Cancels (action = .cancelSync) (action = .cancelRescan) g h) : Heeds f h := by
  have takes (other : Action) : Takes other f h ↔ action = other ∨ Takes other g h := by
    have left := nextAction_count taken other
    have less := acts.stock.count_le other
    unfold Takes
    split at left
    · rename_i same
      simp only [same, true_or, iff_true]
      omega
    · rename_i differs
      simp only [differs, false_or]
      omega
  obtain ⟨lost, listeners, rfl⟩ := nextAction_cases taken
  exact {
    shutdown := acts.shutdown
    cancelled := fun token => by
      rw [acts.cancelled, takes, takes]
      simp only [false_or]
    session := acts.session
    slot := acts.slot
    stock := (acts.stock.trans (List.sublist_cons_self _ _).subperm).trans lost.symm.subperm }

theorem react {call : Follower → Follower} (calls : ∀ f, Cancels True False f (call f))
    (position : Nat) (callback : Callback) (fuel : Nat) (f : Follower) :
    Heeds f (react call position callback fuel f) := by
  induction fuel generalizing f with
  | zero => exact refl f
  | succ fuel ih =>
    unfold Follower.react
    split
    · exact refl f
    · rename_i g taken
      exact acted taken ((refl g).of_iff (by simp) (by simp))
    · rename_i g taken
      exact acted taken ((log g _).of_iff (by simp) (by simp))
    · rename_i heirs g taken
      exact acted taken (((recruit g position heirs).heed (ih _)).of_iff (by simp) (by simp))
    · rename_i g taken
      exact acted taken (((calls g).heed (ih _)).of_iff (by simp) (by simp))
    · rename_i g taken
      exact acted taken (((cancelRescan g).heed (ih _)).of_iff (by simp) (by simp))

theorem tell {call : Follower → Follower} (calls : ∀ f, Cancels True False f (call f))
    (event : Event) (f : Follower) (position : Nat) : Heeds f (f.tell call event position) := by
  unfold Follower.tell
  split
  · exact refl f
  · split
    · exact refl f
    · exact (note f (.heard position event)).heed (react calls _ _ _ _)

theorem tellEach {call : Follower → Follower} (calls : ∀ f, Cancels True False f (call f))
    (event : Event) (positions : List Nat) (f : Follower) :
    Heeds f (positions.foldl (Follower.tell call event) f) := by
  induction positions generalizing f with
  | nil => exact refl f
  | cons position rest ih => exact (tell calls event f position).heed (ih _)

theorem tellAll {call : Follower → Follower} (calls : ∀ f, Cancels True False f (call f))
    (event : Event) (f : Follower) : Heeds f (f.tellAll call event) :=
  tellEach calls event _ f

theorem broadcastWithin (depth : Nat) (event : Event) (f : Follower) :
    Heeds f (f.broadcastWithin depth event) := by
  induction depth generalizing event f with
  | zero => exact tellAll cancelSession event f
  | succ depth ih => exact tellAll (fun g => (cancelSession g).heed (ih _ _)) event f

/-- Whatever event is sent, the only tokens that it cancels are those that listeners cancel. -/
theorem broadcast (f : Follower) (event : Event) : Heeds f (f.broadcast event) :=
  broadcastWithin _ event f

theorem cancelSync (f : Follower) : Cancels True False f f.cancelSync :=
  (cancelSession f).heed (broadcast _ _)

theorem of_sameTasksAndClient (spared : SameTasksAndClient f g) : Heeds f g := by
  induction spared with
  | @same f g rest =>
    simp only [Prod.mk.injEq] at rest
    obtain ⟨standing, scanning, listeners, cancelled, shutdown, _, _⟩ := rest
    have session : g.session = f.session := congrArg Standing.session standing
    have slot : g.rescanSlot = f.rescanSlot := congrArg Scanning.slot scanning
    exact of_same (by rw [session, slot, shutdown, listeners, cancelled])
  | log f record => exact log f record
  | saw f plain => exact note f _
  | broadcast f goesOn => exact broadcast f _
  | trans _ _ first second => exact first.heed second

theorem of_dialled (dialled : Dialled f g) : Heeds f g := by
  induction dialled with
  | spared spared => exact of_sameTasksAndClient spared
  | saw f spares => exact note f _
  | cached f cache => exact of_same rfl
  | trans _ _ first second => exact first.heed second

theorem of_harmless {dials : Prop} (harmless : Harmless dials f g) : Heeds f g := by
  induction harmless with
  | spared spared => exact of_sameTasksAndClient spared
  | @same f g rest =>
    simp only [Prod.mk.injEq] at rest
    obtain ⟨token, scanning, listeners, cancelled, shutdown, _, _⟩ := rest
    have slot : g.rescanSlot = f.rescanSlot := congrArg Scanning.slot scanning
    exact of_same (by rw [token, slot, shutdown, listeners, cancelled])
  | note f elsewhere => exact note f _
  | broadcast f event => exact broadcast f event
  | dialled may dialled => exact of_dialled dialled
  | trans _ _ first second => exact first.heed second

end Cancels

/-- How often the listener at a position heard that the wallet is not synced, and how often it will
hear that because listeners have it in store to cancel the sync. -/
def due (position : Nat) (f : Follower) : Nat :=
  (heardBy position f.history).count (.synced false) + f.stock.count .cancelSync

section
variable {call : Follower → Follower} {depth position : Nat}

end

theorem reactionCount_eq (f : Follower) : f.reactionCount = f.stock.length := by
  unfold reactionCount stock
  induction f.listeners with
  | nil => rfl
  | cons listener rest ih =>
    rw [List.foldr_cons, List.flatMap_cons, List.length_append, ih, Listener.actions,
      List.length_map]

end Follower

end ChainFollower

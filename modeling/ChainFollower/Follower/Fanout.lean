import ChainFollower.Follower

/-!
Events go to every listener that is registered when they are sent, in the order of registration.
Listeners may register others, cancel the sync, which sends an event in turn, or panic; a panic is
logged and the next listener is told.
-/

namespace ChainFollower.Follower

/-- The next action of a listener for a callback, which is not done again. -/
def nextAction (f : Follower) (position : Nat) (callback : Callback) : Option (Action × Follower) :=
  match f.listeners[position]? with
  | none => none
  | some listener =>
    (Listener.takeReaction callback listener.reactions).map (fun found =>
      (found.1, { f with
        listeners := f.listeners.set position { listener with reactions := found.2 } }))

def cancelQuietly (f : Follower) : Follower :=
  match f.session.token with
  | some token => f.cancel token
  | none => f

def cancelSession (f : Follower) : Follower :=
  match f.session.token with
  | some token => (f.log .cancellingSync).cancel token
  | none => f

def cancelRescan (f : Follower) : Follower :=
  match f.rescanSlot.token with
  | some token => (f.log .rescanCancelling).cancel token
  | none => f

/-- Registers a listener that takes over the first reactions of the listener at a position. -/
def recruit (f : Follower) (position heirs : Nat) : Follower :=
  match f.listeners[position]? with
  | none => f.addListener Listener.plain
  | some listener =>
    let rest := { listener with reactions := listener.reactions.drop heirs }
    { f with listeners := f.listeners.set position rest }.addListener
      ⟨false, listener.reactions.take heirs⟩

/-- Does what a listener has in store for a callback; a panic ends it. `cancelSync` is the call that
the listener can make, and `fuel` the number of its reactions. -/
def react (cancelSync : Follower → Follower) (position : Nat) (callback : Callback) :
    Nat → Follower → Follower
  | 0, f => f
  | fuel + 1, f =>
    match f.nextAction position callback with
    | none => f
    | some (.leave, f) => f
    | some (.panic, f) => f.log (.listenerPanicked (Listener.name position))
    | some (.addListener heirs, f) =>
      react cancelSync position callback fuel (f.recruit position heirs)
    | some (.cancelSync, f) => react cancelSync position callback fuel (cancelSync f)
    | some (.cancelRescan, f) => react cancelSync position callback fuel f.cancelRescan

def tell (cancelSync : Follower → Follower) (event : Event) (f : Follower) (position : Nat) :
    Follower :=
  match f.listeners[position]? with
  | none => f
  | some listener =>
    if listener.silent then f
    else
      react cancelSync position event.callback listener.reactions.length
        (f.note (.heard position event))

def tellAll (cancelSync : Follower → Follower) (event : Event) (f : Follower) : Follower :=
  (List.range f.listeners.length).foldl (tell cancelSync event) f

/-- Sends an event; up to `depth` events can be sent from inside callbacks of one another. -/
def broadcastWithin : Nat → Event → Follower → Follower
  | 0, event, f => f.tellAll cancelSession event
  | depth + 1, event, f =>
    f.tellAll (fun f => broadcastWithin depth (.synced false) f.cancelSession) event

def reactionCount (f : Follower) : Nat :=
  f.listeners.foldr (fun listener n => listener.reactions.length + n) 0

/-- Sends an event to all listeners. An event sent from inside a callback uses up a reaction, which
bounds the depth. -/
def broadcast (f : Follower) (event : Event) : Follower :=
  broadcastWithin f.reactionCount event f

/-- Cancels the sync, if one is under way, and tells listeners that the wallet is not synced. -/
def cancelSync (f : Follower) : Follower :=
  f.cancelSession.broadcast (.synced false)

end ChainFollower.Follower

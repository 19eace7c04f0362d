/-!
The RPC client that is kept for the next session.
-/

namespace ChainFollower

/-- An RPC client, known by its number. -/
structure Client where
  number : Nat
  deriving DecidableEq, Repr

def Client.name (client : Client) : String :=
  "client" ++ toString client.number

/-- Holds a client once its connection succeeded. -/
abbrev ClientCache := Option Client

namespace ClientCache

/-- Keeps the client unless there is one already; gives back the one that is kept now, and whether
the new one was discarded. -/
def store (cache : ClientCache) (client : Client) : ClientCache × Client × Bool :=
  match cache with
  | some kept => (cache, kept, true)
  | none => (some client, client, false)

/-- Empties the cache, and tells whether there was anything to remove. -/
def invalidate (cache : ClientCache) : ClientCache × Bool :=
  (none, cache.isSome)

end ClientCache

end ChainFollower

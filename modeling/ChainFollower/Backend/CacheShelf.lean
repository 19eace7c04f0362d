import ChainFollower.Backend.ClientCache
import ChainFollower.Log.Record

/-!
Several caches of clients, and handles on them. Handles that were made from one another share a
cache; each is known by its number, in the order in which they were made.
-/

namespace ChainFollower

structure CacheShelf where
  caches : List ClientCache
  /-- The position of each handle's cache. -/
  handles : List Nat
  clients : Nat
  deriving DecidableEq, Repr

inductive CacheCall where
  | store (handle : Nat)
  | cached (handle : Nat)
  | isCached (handle : Nat)
  | invalidate (handle : Nat)
  /-- Makes a handle that shares the cache. -/
  | share (handle : Nat)
  /-- Makes a handle with a cache of its own. -/
  | add
  deriving DecidableEq, Repr

/-- A call, and the client that comes with it, which only a store makes use of. -/
structure CacheRequest where
  call : CacheCall
  client : Client
  deriving DecidableEq, Repr

inductive CacheResult where
  | nothing
  | client (client : Option Client)
  | flag (held : Bool)
  | handle (number : Nat)
  deriving DecidableEq, Repr

namespace CacheShelf

def start : CacheShelf := ⟨[none], [0], 0⟩

def cached (shelf : CacheShelf) (handle : Nat) : ClientCache :=
  (shelf.handles[handle]?.bind (fun i => shelf.caches[i]?)).join

def setCached (shelf : CacheShelf) (handle : Nat) (cache : ClientCache) : CacheShelf :=
  match shelf.handles[handle]? with
  | some i => { shelf with caches := shelf.caches.set i cache }
  | none => shelf

def answer (shelf : CacheShelf) (request : CacheRequest) :
    CacheShelf × CacheResult × Option LogRecord :=
  match request.call with
  | .store handle =>
    let (cache, kept, discarded) := (shelf.cached handle).store request.client
    (shelf.setCached handle cache, .client (some kept),
      if discarded then some .clientDiscarded else none)
  | .cached handle => (shelf, .client (shelf.cached handle), none)
  | .isCached handle => (shelf, .flag (shelf.cached handle).isSome, none)
  | .invalidate handle =>
    let (cache, removed) := (shelf.cached handle).invalidate
    (shelf.setCached handle cache, .nothing, if removed then some .cacheInvalidated else none)
  | .share handle =>
    ({ shelf with handles := shelf.handles ++ [shelf.handles.getD handle 0] },
      .handle shelf.handles.length, none)
  | .add =>
    ({ shelf with
      caches := shelf.caches ++ [none], handles := shelf.handles ++ [shelf.caches.length] },
      .handle shelf.handles.length, none)

/-- Answers a call. What a store brings is a client that was not there before. -/
def call (shelf : CacheShelf) (call : CacheCall) : CacheShelf × CacheResult × Option LogRecord :=
  let client : Client := ⟨shelf.clients + 1⟩
  match call with
  | .store _ => { shelf with clients := client.number }.answer ⟨call, client⟩
  | _ => shelf.answer ⟨call, client⟩

def run : CacheShelf → List CacheRequest → List (CacheResult × Option LogRecord)
  | _, [] => []
  | shelf, request :: rest =>
    let (shelf, answer) := shelf.answer request
    answer :: shelf.run rest

end CacheShelf

end ChainFollower

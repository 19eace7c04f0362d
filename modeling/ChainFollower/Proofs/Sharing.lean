import ChainFollower.Proofs.Kinship
import Mathlib.Data.List.Induction

/-!
A shelf of caches over any run of requests. Its table puts two handles at the same cache exactly if
they are kin, and that cache holds what its kin stored first since one of them emptied it. So a
request is answered by what its kin did, and by nothing that others do.
-/

namespace ChainFollower

namespace CacheShelf

def after (shelf : CacheShelf) (requests : List CacheRequest) : CacheShelf :=
  requests.foldl (fun shelf request => (shelf.answer request).1) shelf

theorem after_append (shelf : CacheShelf) (requests more : List CacheRequest) :
    shelf.after (requests ++ more) = (shelf.after requests).after more := by
  simp [after]

theorem after_concat (shelf : CacheShelf) (requests : List CacheRequest) (request : CacheRequest) :
    shelf.after (requests ++ [request]) = ((shelf.after requests).answer request).1 := by
  simp [after]

theorem length_run (shelf : CacheShelf) (requests : List CacheRequest) :
    (shelf.run requests).length = requests.length := by
  induction requests generalizing shelf with
  | nil => rfl
  | cons request requests ih => simp [run, ih]

theorem run_append (shelf : CacheShelf) (requests more : List CacheRequest) :
    shelf.run (requests ++ more) = shelf.run requests ++ (shelf.after requests).run more := by
  induction requests generalizing shelf with
  | nil => rfl
  | cons request requests ih => simp [run, after, ih]

theorem run_getElem? (shelf : CacheShelf) (before : List CacheRequest) (request : CacheRequest)
    (later : List CacheRequest) :
    (shelf.run (before ++ request :: later))[before.length]? =
      some ((shelf.after before).answer request).2 := by
  rw [run_append, ← length_run shelf before, List.getElem?_append_right (Nat.le_refl _)]
  simp [run]

section Answer

variable {shelf : CacheShelf} {handle place : Nat}

def contents (shelf : CacheShelf) (place : Nat) : ClientCache :=
  shelf.caches[place]?.join

theorem cached_of_place (here : shelf.handles[handle]? = some place) :
    shelf.cached handle = shelf.contents place := by
  simp [cached, contents, here]

theorem setCached_of_place (here : shelf.handles[handle]? = some place) (cache : ClientCache) :
    shelf.setCached handle cache = { shelf with caches := shelf.caches.set place cache } := by
  simp [setCached, here]

@[simp] theorem handles_setCached (shelf : CacheShelf) (handle : Nat) (cache : ClientCache) :
    (shelf.setCached handle cache).handles = shelf.handles := by
  unfold setCached
  split <;> rfl

@[simp] theorem length_caches_setCached (shelf : CacheShelf) (handle : Nat) (cache : ClientCache) :
    (shelf.setCached handle cache).caches.length = shelf.caches.length := by
  unfold setCached
  split
  · exact List.length_set
  · rfl

theorem contents_setCached (here : shelf.handles[handle]? = some place)
    (bound : place < shelf.caches.length) (cache : ClientCache) (other : Nat) :
    (shelf.setCached handle cache).contents other =
      if other = place then cache else shelf.contents other := by
  rw [setCached_of_place here]
  by_cases same : other = place
  · subst same
    simp [contents, bound]
  · simp [contents, same, List.getElem?_set_ne (Ne.symm same)]

theorem answer_store (here : shelf.handles[handle]? = some place) (client : Client) :
    shelf.answer ⟨.store handle, client⟩ =
      (shelf.setCached handle (some ((shelf.contents place).getD client)),
        .client (some ((shelf.contents place).getD client)),
        if (shelf.contents place).isSome = true then some .clientDiscarded else none) := by
  cases held : shelf.contents place <;>
    simp [answer, ClientCache.store, cached_of_place here, held]

theorem answer_invalidate (here : shelf.handles[handle]? = some place) (client : Client) :
    shelf.answer ⟨.invalidate handle, client⟩ = (shelf.setCached handle none, .nothing,
      if (shelf.contents place).isSome = true then some .cacheInvalidated else none) := by
  simp [answer, ClientCache.invalidate, cached_of_place here]

theorem answer_share (here : shelf.handles[handle]? = some place) (client : Client) :
    shelf.answer ⟨.share handle, client⟩ =
      ({ shelf with handles := shelf.handles ++ [place] }, .handle shelf.handles.length, none) := by
  simp [answer, here]

/-- To make a handle changes nothing that a cache holds: a new cache is empty, as was its place. -/
theorem contents_answer_of_made {request : CacheRequest} {origin : Option Nat}
    (made : request.call.origin? = some origin) (place : Nat) :
    (shelf.answer request).1.contents place = shelf.contents place := by
  obtain ⟨call, client⟩ := request
  cases call with
  | store _ | cached _ | isCached _ | invalidate _ => cases made
  | share _ => rfl
  | add =>
    simp only [answer, contents]
    rcases Nat.lt_or_ge place shelf.caches.length with within | beyond
    · rw [List.getElem?_append_left within]
    · rw [List.getElem?_append_right beyond, List.getElem?_eq_none beyond]
      cases place - shelf.caches.length <;> rfl

/-- No request moves a handle. -/
theorem place_answer (here : shelf.handles[handle]? = some place) (request : CacheRequest) :
    (shelf.answer request).1.handles[handle]? = some place := by
  have bound : handle < shelf.handles.length := (List.getElem?_eq_some_iff.mp here).1
  obtain ⟨call, client⟩ := request
  cases call with
  | cached _ | isCached _ => exact here
  | store _ | invalidate _ => simpa [answer] using here
  | share _ | add =>
    simp only [answer]
    rw [List.getElem?_append_left bound]
    exact here

theorem place_after (here : shelf.handles[handle]? = some place) (requests : List CacheRequest) :
    (shelf.after requests).handles[handle]? = some place := by
  induction requests generalizing shelf with
  | nil => exact here
  | cons request requests ih => exact ih (place_answer here request)

end Answer

/-- The table of a shelf after a history: a shared handle stands where its source stands, and every
handle with a cache of its own stands alone at its making. -/
structure Placed (requests : List CacheRequest) (shelf : CacheShelf) : Prop where
  length : shelf.handles.length = (origins requests).length
  bound : ∀ {handle place : Nat}, shelf.handles[handle]? = some place → place < shelf.caches.length
  shared : ∀ handle source : Nat, (origins requests)[handle]? = some (some source) →
    source < handle ∧ shelf.handles[handle]? = shelf.handles[source]?
  apart : ∀ a b : Nat, (origins requests)[a]? = some none → (origins requests)[b]? = some none →
    shelf.handles[a]? = shelf.handles[b]? → a = b

section Placed

variable {requests : List CacheRequest} {request : CacheRequest} {shelf : CacheShelf}
variable {handle place : Nat}

theorem placed_start : Placed [] start := by
  constructor
  · rfl
  · intro handle place here
    cases handle <;> simp_all [start]
  · intro handle source shared
    cases handle <;> simp [origins] at shared
  · intro a b own other _
    cases a <;> cases b <;> simp_all [origins]

theorem Placed.exists_place (placed : Placed requests shelf)
    (made : handle < (origins requests).length) : ∃ place, shelf.handles[handle]? = some place := by
  rw [← placed.length] at made
  exact ⟨_, List.getElem?_eq_getElem made⟩

theorem Placed.older (placed : Placed requests shelf) {origin : Option Nat}
    (made : (origins requests)[handle]? = some origin) (place : Nat) :
    (shelf.handles ++ [place])[handle]? = shelf.handles[handle]? := by
  have bound := (List.getElem?_eq_some_iff.mp made).1
  rw [← placed.length] at bound
  exact List.getElem?_append_left bound

theorem Placed.older_shared (placed : Placed requests shelf) {source : Nat}
    (made : (origins requests)[handle]? = some (some source)) (place : Nat) :
    source < handle ∧
      (shelf.handles ++ [place])[handle]? = (shelf.handles ++ [place])[source]? := by
  obtain ⟨less, equal⟩ := placed.shared handle source made
  have bound := (List.getElem?_eq_some_iff.mp made).1
  rw [← placed.length] at bound
  rw [placed.older made, equal, List.getElem?_append_left (Nat.lt_trans less bound)]
  exact ⟨less, rfl⟩

theorem Placed.same {next : CacheShelf} (placed : Placed requests shelf)
    (unmade : request.call.origin? = none) (handles : next.handles = shelf.handles)
    (caches : next.caches.length = shelf.caches.length) : Placed (requests ++ [request]) next := by
  constructor
  · rw [handles, origins_of_unmade unmade, placed.length]
  · rw [handles, caches]
    exact placed.bound
  · rw [handles, origins_of_unmade unmade]
    exact placed.shared
  · rw [handles, origins_of_unmade unmade]
    exact placed.apart

theorem Placed.share (placed : Placed requests shelf)
    (here : shelf.handles[handle]? = some place) (client : Client) :
    Placed (requests ++ [⟨.share handle, client⟩])
      { shelf with handles := shelf.handles ++ [place] } := by
  have origins : origins (requests ++ [⟨.share handle, client⟩]) =
      origins requests ++ [some handle] := origins_concat _ _
  have bound : handle < shelf.handles.length := (List.getElem?_eq_some_iff.mp here).1
  constructor
  · simp [origins, placed.length]
  · intro other otherPlace there
    rcases getElem?_concat_eq_some.mp there with old | ⟨-, rfl⟩
    · exact placed.bound old
    · exact placed.bound here
  · intro other source shared
    rw [origins, getElem?_concat_eq_some] at shared
    rcases shared with old | ⟨last, same⟩
    · exact placed.older_shared old _
    · cases same
      rw [← placed.length] at last
      subst last
      exact ⟨bound, by rw [List.getElem?_concat_length, List.getElem?_append_left bound, here]⟩
  · intro a b own other equal
    rw [origins, getElem?_concat_eq_some] at own other
    rcases own with own | ⟨-, impossible⟩
    · rcases other with other | ⟨-, impossible⟩
      · rw [placed.older own, placed.older other] at equal
        exact placed.apart a b own other equal
      · cases impossible
    · cases impossible

theorem Placed.add (placed : Placed requests shelf) (client : Client) :
    Placed (requests ++ [⟨.add, client⟩]) { shelf with
      caches := shelf.caches ++ [none], handles := shelf.handles ++ [shelf.caches.length] } := by
  have origins : origins (requests ++ [⟨.add, client⟩]) = origins requests ++ [none] :=
    origins_concat _ _
  -- The new place lies beyond all those in use.
  have new : ∀ a : Nat, shelf.handles[a]? ≠ some shelf.caches.length := by
    intro a here
    exact Nat.lt_irrefl _ (placed.bound here)
  constructor
  · simp [origins, placed.length]
  · intro other otherPlace there
    rw [List.length_append, List.length_singleton]
    rcases getElem?_concat_eq_some.mp there with old | ⟨-, rfl⟩
    · exact Nat.lt_succ_of_lt (placed.bound old)
    · exact Nat.lt_succ_self _
  · intro other source shared
    rw [origins, getElem?_concat_eq_some] at shared
    rcases shared with old | ⟨-, impossible⟩
    · exact placed.older_shared old _
    · cases impossible
  · intro a b own other equal
    rw [origins, getElem?_concat_eq_some, ← placed.length] at own other
    rcases own with own | ⟨rfl, -⟩
    · rcases other with other | ⟨rfl, -⟩
      · rw [placed.older own, placed.older other] at equal
        exact placed.apart a b own other equal
      · rw [placed.older own, List.getElem?_concat_length] at equal
        exact absurd equal (new a)
    · rcases other with other | ⟨rfl, -⟩
      · rw [placed.older other, List.getElem?_concat_length] at equal
        exact absurd equal.symm (new b)
      · rfl

theorem Placed.answer (placed : Placed requests shelf)
    (made : ∀ handle ∈ request.call.through?, handle < (origins requests).length) :
    Placed (requests ++ [request]) (shelf.answer request).1 := by
  obtain ⟨call, client⟩ := request
  cases call with
  | cached _ | isCached _ => exact placed.same rfl rfl rfl
  | store _ | invalidate _ =>
    exact placed.same rfl (handles_setCached _ _ _) (length_caches_setCached _ _ _)
  | share handle =>
    obtain ⟨place, here⟩ := placed.exists_place (made handle rfl)
    rw [answer_share here]
    exact placed.share here client
  | add => exact placed.add client

theorem placed_after (grounded : Grounded requests) : Placed requests (start.after requests) := by
  induction requests using List.reverseRecOn with
  | nil => exact placed_start
  | append_singleton requests request ih =>
    rw [after_concat]
    exact (ih grounded.before).answer grounded.here

theorem Placed.of_descends (placed : Placed requests shelf) {root : Nat}
    (descends : Descends (origins requests) handle root) :
    (origins requests)[root]? = some none ∧ shelf.handles[handle]? = shelf.handles[root]? := by
  induction descends with
  | root own => exact ⟨own, rfl⟩
  | share shared _ ih => exact ⟨ih.1, (placed.shared _ _ shared).2.trans ih.2⟩

theorem Placed.exists_root (placed : Placed requests shelf)
    (made : handle < (origins requests).length) : ∃ root, Descends (origins requests) handle root := by
  induction handle using Nat.strongRecOn with
  | ind handle ih =>
    cases origin : (origins requests)[handle] with
    | none => exact ⟨handle, .root (List.getElem?_eq_some_iff.mpr ⟨made, origin⟩)⟩
    | some source =>
      have shared : (origins requests)[handle]? = some (some source) :=
        List.getElem?_eq_some_iff.mpr ⟨made, origin⟩
      have less := (placed.shared handle source shared).1
      obtain ⟨root, descends⟩ := ih source less (Nat.lt_trans less made)
      exact ⟨root, .share shared descends⟩

theorem Placed.kin_iff (placed : Placed requests shelf) {a b : Nat} :
    Kin requests a b ↔ ∃ place, shelf.handles[a]? = some place ∧ shelf.handles[b]? = some place := by
  constructor
  · rintro ⟨root, left, right⟩
    obtain ⟨own, leftPlace⟩ := placed.of_descends left
    obtain ⟨-, rightPlace⟩ := placed.of_descends right
    obtain ⟨place, here⟩ := placed.exists_place (List.getElem?_eq_some_iff.mp own).1
    exact ⟨place, leftPlace.trans here, rightPlace.trans here⟩
  · rintro ⟨place, left, right⟩
    have made : ∀ {handle}, shelf.handles[handle]? = some place →
        handle < (origins requests).length := by
      intro handle here
      rw [← placed.length]
      exact (List.getElem?_eq_some_iff.mp here).1
    obtain ⟨root, descends⟩ := placed.exists_root (made left)
    obtain ⟨other, alsoDescends⟩ := placed.exists_root (made right)
    obtain ⟨own, here⟩ := placed.of_descends descends
    obtain ⟨alsoOwn, there⟩ := placed.of_descends alsoDescends
    have same : root = other :=
      placed.apart root other own alsoOwn (by rw [← here, ← there, left, right])
    exact ⟨root, descends, same ▸ alsoDescends⟩

theorem Placed.kin_iff_place (placed : Placed requests shelf)
    (here : shelf.handles[handle]? = some place) {other otherPlace : Nat}
    (there : shelf.handles[other]? = some otherPlace) :
    Kin requests handle other ↔ otherPlace = place := by
  rw [placed.kin_iff]
  simp [here, there, eq_comm]

def Serves (shelf : CacheShelf) (place : Nat) (family : Nat → Prop) : Prop :=
  ∀ handle other : Nat, shelf.handles[handle]? = some other → (family handle ↔ other = place)

theorem Placed.holds_answer {family : Nat → Prop} (placed : Placed requests shelf)
    (made : ∀ handle ∈ request.call.through?, handle < (origins requests).length)
    (serves : shelf.Serves place family) (holds : Holds requests family (shelf.contents place)) :
    Holds (requests ++ [request]) family ((shelf.answer request).1.contents place) := by
  obtain ⟨call, client⟩ := request
  cases call with
  | store handle =>
    obtain ⟨other, here⟩ := placed.exists_place (made handle rfl)
    have member := serves handle other here
    rw [answer_store here, contents_setCached here (placed.bound here)]
    by_cases same : place = other
    · subst same
      obtain ⟨i, first, -⟩ := holds.store (member.mpr rfl) client
      rw [if_pos rfl]
      exact holds_of_firstStore first
    · rw [if_neg same]
      apply holds.concat
      rintro _ belongs
      refine ⟨?_, nofun⟩
      rintro ⟨⟩
      exact same (member.mp belongs).symm
  | invalidate handle =>
    obtain ⟨other, here⟩ := placed.exists_place (made handle rfl)
    have member := serves handle other here
    rw [answer_invalidate here, contents_setCached here (placed.bound here)]
    by_cases same : place = other
    · rw [if_pos same]
      exact holds_none_of_clears ⟨handle, client, member.mpr same.symm, rfl⟩
    · rw [if_neg same]
      apply holds.concat
      rintro _ belongs
      refine ⟨nofun, ?_⟩
      rintro ⟨⟩
      exact same (member.mp belongs).symm
  | cached _ | isCached _ => exact holds.concat (fun _ _ => ⟨nofun, nofun⟩)
  | share _ | add =>
    rw [contents_answer_of_made rfl]
    exact holds.concat (fun _ _ => ⟨nofun, nofun⟩)

theorem holds_after {family : Nat → Prop} (grounded : Grounded requests)
    (serves : (start.after requests).Serves place family) :
    Holds requests family ((start.after requests).contents place) := by
  induction requests using List.reverseRecOn with
  | nil =>
    have empty : (start.after []).contents place = none := by
      cases place <;> simp [after, start, contents]
    rw [empty]
    exact holds_nil family
  | append_singleton requests request ih =>
    have earlier : (start.after requests).Serves place family := by
      intro handle other here
      apply serves handle other
      rw [after_concat]
      exact place_answer here request
    rw [after_concat]
    exact (placed_after grounded.before).holds_answer grounded.here earlier
      (ih grounded.before earlier)

end Placed

end CacheShelf

end ChainFollower

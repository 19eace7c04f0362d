import ChainFollower.Backend.CacheShelf

/-!
What a history of requests says about handles on caches: which of them descend from the same cache,
and which client a family of handles stored first since it last emptied its cache. Nothing here looks
at a shelf.
-/

namespace ChainFollower

namespace CacheCall

def through? : CacheCall → Option Nat
  | store handle | cached handle | isCached handle | invalidate handle | share handle => some handle
  | add => none

/-- What a new handle is made from, if the call makes one: another handle, or nothing at all. -/
def origin? : CacheCall → Option (Option Nat)
  | share handle => some (some handle)
  | add => some none
  | store _ | cached _ | isCached _ | invalidate _ => none

theorem exists_through? {call : CacheCall} (unmade : call.origin? = none) :
    ∃ handle, call.through? = some handle := by
  cases call with
  | store handle | cached handle | isCached handle | invalidate handle => exact ⟨handle, rfl⟩
  | share _ | add => cases unmade

end CacheCall

namespace CacheShelf

theorem getElem?_concat_eq_some {α : Type} {xs : List α} {x y : α} {i : Nat} :
    (xs ++ [x])[i]? = some y ↔ xs[i]? = some y ∨ i = xs.length ∧ x = y := by
  rcases Nat.lt_trichotomy i xs.length with less | rfl | more
  · have other : i ≠ xs.length := Nat.ne_of_lt less
    simp [List.getElem?_append_left less, other]
  · simp
  · have other : i ≠ xs.length := Nat.ne_of_gt more
    have beyond : (xs ++ [x]).length ≤ i := by
      rw [List.length_append]
      exact more
    simp [List.getElem?_eq_none beyond, List.getElem?_eq_none (Nat.le_of_lt more), other]

/-- What each handle was made from, in the order in which they were made. The first one is there from
the beginning, with a cache of its own. -/
def origins (requests : List CacheRequest) : List (Option Nat) :=
  none :: requests.filterMap (fun request => request.call.origin?)

theorem origins_concat (requests : List CacheRequest) (request : CacheRequest) :
    origins (requests ++ [request]) = origins requests ++ request.call.origin?.toList := by
  cases made : request.call.origin? <;> simp [origins, made]

theorem origins_of_unmade {requests : List CacheRequest} {request : CacheRequest}
    (unmade : request.call.origin? = none) : origins (requests ++ [request]) = origins requests := by
  rw [origins_concat, unmade, Option.toList_none, List.append_nil]

inductive Descends (origins : List (Option Nat)) : Nat → Nat → Prop
  | root {handle : Nat} (own : origins[handle]? = some none) : Descends origins handle handle
  | share {handle source root : Nat} (shared : origins[handle]? = some (some source))
      (descends : Descends origins source root) : Descends origins handle root

/-- Two handles that descend from one whose cache was made for it. -/
def Kin (requests : List CacheRequest) (a b : Nat) : Prop :=
  ∃ root, Descends (origins requests) a root ∧ Descends (origins requests) b root

theorem kin_of_unmade {requests : List CacheRequest} {request : CacheRequest}
    (unmade : request.call.origin? = none) : Kin (requests ++ [request]) = Kin requests := by
  unfold Kin
  rw [origins_of_unmade unmade]

def Grounded (requests : List CacheRequest) : Prop :=
  ∀ i < requests.length, ∀ request ∈ requests[i]?, ∀ handle ∈ request.call.through?,
    handle < (origins (requests.take i)).length

instance (requests : List CacheRequest) : Decidable (Grounded requests) :=
  inferInstanceAs (Decidable (∀ i < requests.length, ∀ request ∈ requests[i]?,
    ∀ handle ∈ request.call.through?, handle < (origins (requests.take i)).length))

theorem Grounded.before {before later : List CacheRequest} (grounded : Grounded (before ++ later)) :
    Grounded before := by
  intro i bound request here handle among
  have longer : i < (before ++ later).length := by
    rw [List.length_append]
    omega
  have known := grounded i longer request (by rwa [List.getElem?_append_left bound]) handle among
  rwa [List.take_append_of_le_length (Nat.le_of_lt bound)] at known

theorem Grounded.here {before later : List CacheRequest} {request : CacheRequest}
    (grounded : Grounded (before ++ request :: later)) :
    ∀ handle ∈ request.call.through?, handle < (origins before).length := by
  intro handle among
  simpa using grounded before.length (by simp) request (by simp) handle among

section Stores

variable {requests : List CacheRequest} {family : Nat → Prop} {request : CacheRequest}

def StoresAt (requests : List CacheRequest) (family : Nat → Prop) (i : Nat) (client : Client) : Prop :=
  ∃ handle, family handle ∧ requests[i]? = some ⟨.store handle, client⟩

def InvalidatesAt (requests : List CacheRequest) (family : Nat → Prop) (i : Nat) : Prop :=
  ∃ handle client, family handle ∧ requests[i]? = some ⟨.invalidate handle, client⟩

def Clears (family : Nat → Prop) (request : CacheRequest) : Prop :=
  ∃ handle client, family handle ∧ request = ⟨.invalidate handle, client⟩

/-- The first store of the family since one of it last invalidated. -/
structure FirstStore (requests : List CacheRequest) (family : Nat → Prop) (i : Nat)
    (client : Client) : Prop where
  given : StoresAt requests family i client
  lasting : ∀ j, i < j → ¬ InvalidatesAt requests family j
  first : ∀ j < i, ∀ other, StoresAt requests family j other →
    ∃ k, j < k ∧ k < i ∧ InvalidatesAt requests family k

def Holds (requests : List CacheRequest) (family : Nat → Prop) (held : ClientCache) : Prop :=
  ∀ client, held = some client ↔ ∃ i, FirstStore requests family i client

theorem StoresAt.lt {i : Nat} {client : Client} (stores : StoresAt requests family i client) :
    i < requests.length := by
  obtain ⟨handle, -, here⟩ := stores
  exact (List.getElem?_eq_some_iff.mp here).1

theorem InvalidatesAt.lt {i : Nat} (invalidates : InvalidatesAt requests family i) :
    i < requests.length := by
  obtain ⟨handle, client, -, here⟩ := invalidates
  exact (List.getElem?_eq_some_iff.mp here).1

theorem StoresAt.not_invalidatesAt {i : Nat} {client : Client}
    (stores : StoresAt requests family i client) : ¬ InvalidatesAt requests family i := by
  rintro ⟨handle, other, -, there⟩
  obtain ⟨_, -, here⟩ := stores
  rw [here] at there
  cases there

theorem storesAt_concat {i : Nat} {client : Client} :
    StoresAt (requests ++ [request]) family i client ↔ StoresAt requests family i client ∨
      i = requests.length ∧ ∃ handle, family handle ∧ request = ⟨.store handle, client⟩ := by
  simp only [StoresAt, getElem?_concat_eq_some]
  constructor
  · rintro ⟨handle, member, here | ⟨last, same⟩⟩
    · exact .inl ⟨handle, member, here⟩
    · exact .inr ⟨last, handle, member, same⟩
  · rintro (⟨handle, member, here⟩ | ⟨last, handle, member, same⟩)
    · exact ⟨handle, member, .inl here⟩
    · exact ⟨handle, member, .inr ⟨last, same⟩⟩

theorem invalidatesAt_concat {i : Nat} :
    InvalidatesAt (requests ++ [request]) family i ↔ InvalidatesAt requests family i ∨
      i = requests.length ∧ Clears family request := by
  simp only [InvalidatesAt, Clears, getElem?_concat_eq_some]
  constructor
  · rintro ⟨handle, client, member, here | ⟨last, same⟩⟩
    · exact .inl ⟨handle, client, member, here⟩
    · exact .inr ⟨last, handle, client, member, same⟩
  · rintro (⟨handle, client, member, here⟩ | ⟨last, handle, client, member, same⟩)
    · exact ⟨handle, client, member, .inl here⟩
    · exact ⟨handle, client, member, .inr ⟨last, same⟩⟩

theorem FirstStore.unique {i j : Nat} {a b : Client} (one : FirstStore requests family i a)
    (other : FirstStore requests family j b) : i = j ∧ a = b := by
  -- The earlier of two stores would have to be emptied before the later one.
  have apart : ∀ {i j a b}, FirstStore requests family i a → FirstStore requests family j b →
      ¬ i < j := by
    intro i j a b early late less
    obtain ⟨k, above, -, invalidates⟩ := late.first i less a early.given
    exact early.lasting k above invalidates
  have same : i = j := Nat.le_antisymm (Nat.not_lt.mp (apart other one))
    (Nat.not_lt.mp (apart one other))
  subst same
  obtain ⟨_, -, here⟩ := one.given
  obtain ⟨_, -, there⟩ := other.given
  rw [here] at there
  injection there with there
  exact ⟨rfl, congrArg CacheRequest.client there⟩

theorem exists_firstStore {i : Nat} {client : Client} (stores : StoresAt requests family i client)
    (lasting : ∀ k, i < k → ¬ InvalidatesAt requests family k) :
    ∃ j other, FirstStore requests family j other := by
  -- From a store that nothing undid, go back to an earlier one of its kind as long as there is one.
  induction i using Nat.strongRecOn generalizing client with
  | ind i ih =>
    by_cases first : ∀ j < i, ∀ other, StoresAt requests family j other →
        ∃ k, j < k ∧ k < i ∧ InvalidatesAt requests family k
    · exact ⟨i, client, stores, lasting, first⟩
    · simp only [Classical.not_forall] at first
      obtain ⟨j, less, other, earlier, never⟩ := first
      refine ih j less earlier ?_
      intro k above invalidates
      rcases Nat.lt_trichotomy k i with below | rfl | beyond
      · exact never ⟨k, above, below, invalidates⟩
      · exact stores.not_invalidatesAt invalidates
      · exact lasting k beyond invalidates

theorem invalidated_of_holds_none (empty : Holds requests family none) {i : Nat} {client : Client}
    (stores : StoresAt requests family i client) :
    ∃ k, i < k ∧ InvalidatesAt requests family k := by
  by_cases gone : ∃ k, i < k ∧ InvalidatesAt requests family k
  · exact gone
  · obtain ⟨j, other, first⟩ := exists_firstStore stores
      (fun k above invalidates => gone ⟨k, above, invalidates⟩)
    exact nomatch (empty other).mpr ⟨j, first⟩

theorem FirstStore.concat {i : Nat} {client : Client} (first : FirstStore requests family i client)
    (spared : ¬ Clears family request) : FirstStore (requests ++ [request]) family i client := by
  have bound := first.given.lt
  constructor
  · exact storesAt_concat.mpr (.inl first.given)
  · intro j above invalidates
    rcases invalidatesAt_concat.mp invalidates with earlier | ⟨-, clears⟩
    · exact first.lasting j above earlier
    · exact spared clears
  · intro j less other stores
    rcases storesAt_concat.mp stores with earlier | ⟨last, -⟩
    · obtain ⟨k, above, below, invalidates⟩ := first.first j less other earlier
      exact ⟨k, above, below, invalidatesAt_concat.mpr (.inl invalidates)⟩
    · omega

theorem FirstStore.of_concat {i : Nat} {client : Client}
    (first : FirstStore (requests ++ [request]) family i client) (bound : i < requests.length) :
    FirstStore requests family i client := by
  obtain ⟨given, lasting, first⟩ := first
  constructor
  · rcases storesAt_concat.mp given with earlier | ⟨last, -⟩
    · exact earlier
    · omega
  · intro j above invalidates
    exact lasting j above (invalidatesAt_concat.mpr (.inl invalidates))
  · intro j less other stores
    obtain ⟨k, above, below, invalidates⟩ := first j less other (storesAt_concat.mpr (.inl stores))
    refine ⟨k, above, below, ?_⟩
    rcases invalidatesAt_concat.mp invalidates with earlier | ⟨last, -⟩
    · exact earlier
    · omega

theorem firstStore_last {handle : Nat} {client : Client} (empty : Holds requests family none)
    (member : family handle) :
    FirstStore (requests ++ [⟨.store handle, client⟩]) family requests.length client := by
  constructor
  · exact storesAt_concat.mpr (.inr ⟨rfl, handle, member, rfl⟩)
  · intro j above invalidates
    have bound := invalidates.lt
    rw [List.length_append, List.length_singleton] at bound
    omega
  · intro j less other stores
    rcases storesAt_concat.mp stores with earlier | ⟨last, -⟩
    · obtain ⟨k, above, invalidates⟩ := invalidated_of_holds_none empty earlier
      exact ⟨k, above, invalidates.lt, invalidatesAt_concat.mpr (.inl invalidates)⟩
    · omega

theorem holds_nil (family : Nat → Prop) : Holds [] family none := by
  intro client
  constructor
  · intro impossible
    cases impossible
  · rintro ⟨i, first⟩
    exact absurd first.given.lt (Nat.not_lt_zero i)

theorem holds_of_firstStore {i : Nat} {client : Client} (first : FirstStore requests family i client) :
    Holds requests family (some client) := by
  intro other
  constructor
  · rintro ⟨⟩
    exact ⟨i, first⟩
  · rintro ⟨j, second⟩
    rw [(first.unique second).2]

theorem Holds.store {held : ClientCache} {handle : Nat} (holds : Holds requests family held)
    (member : family handle) (client : Client) :
    ∃ i, FirstStore (requests ++ [⟨.store handle, client⟩]) family i (held.getD client) ∧
      (i < requests.length ↔ held.isSome = true) := by
  cases held with
  | none => exact ⟨requests.length, firstStore_last holds member, by simp⟩
  | some kept =>
    obtain ⟨i, first⟩ := (holds kept).mp rfl
    have spared : ¬ Clears family ⟨.store handle, client⟩ := by
      rintro ⟨other, _, -, same⟩
      cases same
    exact ⟨i, first.concat spared, by simp [first.given.lt]⟩

/-- Requests of others, and those that only look, change nothing. -/
theorem Holds.concat {held : ClientCache} (holds : Holds requests family held)
    (aside : ∀ handle, family handle →
      request.call ≠ .store handle ∧ request.call ≠ .invalidate handle) :
    Holds (requests ++ [request]) family held := by
  have spared : ¬ Clears family request := by
    rintro ⟨handle, client, member, rfl⟩
    exact (aside handle member).2 rfl
  intro client
  rw [holds client]
  constructor
  · rintro ⟨i, first⟩
    exact ⟨i, first.concat spared⟩
  · rintro ⟨i, first⟩
    refine ⟨i, first.of_concat ?_⟩
    rcases storesAt_concat.mp first.given with earlier | ⟨-, handle, member, rfl⟩
    · exact earlier.lt
    · exact absurd rfl (aside handle member).1

theorem holds_none_of_clears (clears : Clears family request) :
    Holds (requests ++ [request]) family none := by
  intro client
  constructor
  · intro impossible
    cases impossible
  · rintro ⟨i, first⟩
    have bound := first.given.lt
    rw [List.length_append, List.length_singleton] at bound
    rcases Nat.lt_or_ge i requests.length with less | more
    · exact absurd (invalidatesAt_concat.mpr (.inr ⟨rfl, clears⟩)) (first.lasting _ less)
    · have last : i = requests.length := by omega
      subst last
      exact (first.given.not_invalidatesAt (invalidatesAt_concat.mpr (.inr ⟨rfl, clears⟩))).elim

end Stores

end CacheShelf

end ChainFollower

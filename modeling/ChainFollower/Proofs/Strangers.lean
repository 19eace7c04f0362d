import ChainFollower.Proofs.Sharing

/-!
Requests on handles that are no kin. What one of them does cannot be seen through the other, neither
in what a cache holds nor in any later answer. With that, each answer in a run is told by the calls of
kin alone.
-/

namespace ChainFollower

namespace CacheShelf

structure SameBut (place : Nat) (a b : CacheShelf) : Prop where
  handles : a.handles = b.handles
  length : a.caches.length = b.caches.length
  elsewhere : ∀ other : Nat, other ≠ place → a.caches[other]? = b.caches[other]?

section SameBut

variable {place : Nat} {a b : CacheShelf} {handle : Nat} {request : CacheRequest}

theorem SameBut.cached (same : SameBut place a b) (elsewhere : a.handles[handle]? ≠ some place) :
    a.cached handle = b.cached handle := by
  unfold CacheShelf.cached
  rw [← same.handles]
  cases here : a.handles[handle]? with
  | none => rfl
  | some other =>
    have distinct : other ≠ place := by
      rintro rfl
      exact elsewhere here
    rw [Option.bind_some, Option.bind_some, same.elsewhere other distinct]

theorem SameBut.setCached (same : SameBut place a b) {left right : ClientCache}
    (equal : a.handles[handle]? ≠ some place → left = right) :
    SameBut place (a.setCached handle left) (b.setCached handle right) := by
  constructor
  · simpa using same.handles
  · simpa using same.length
  · intro other distinct
    unfold CacheShelf.setCached
    rw [← same.handles]
    cases here : a.handles[handle]? with
    | none => exact same.elsewhere other distinct
    | some stored =>
      by_cases hit : stored = other
      · subst hit
        have values := equal (by simpa [here] using distinct)
        simp [List.getElem?_set_self', same.elsewhere stored distinct, values]
      · simpa [List.getElem?_set_ne hit] using same.elsewhere other distinct

theorem SameBut.answer (same : SameBut place a b) (request : CacheRequest) :
    SameBut place (a.answer request).1 (b.answer request).1 := by
  obtain ⟨call, client⟩ := request
  cases call with
  | store handle =>
    apply same.setCached
    intro elsewhere
    rw [same.cached elsewhere]
  | invalidate handle =>
    apply same.setCached
    intro _
    rfl
  | cached _ | isCached _ => exact same
  | share handle =>
    obtain ⟨handles, length, elsewhere⟩ := same
    exact ⟨by simp [CacheShelf.answer, handles], length, elsewhere⟩
  | add =>
    obtain ⟨handles, length, elsewhere⟩ := same
    refine ⟨by simp [CacheShelf.answer, handles, length], by simp [CacheShelf.answer, length], ?_⟩
    intro other distinct
    simp only [CacheShelf.answer, List.getElem?_append, length, elsewhere other distinct]

theorem SameBut.after (same : SameBut place a b) (requests : List CacheRequest) :
    SameBut place (a.after requests) (b.after requests) := by
  induction requests generalizing a b with
  | nil => exact same
  | cons request requests ih => exact ih (same.answer request)

theorem SameBut.answer_eq (same : SameBut place a b)
    (elsewhere : ∀ handle ∈ request.call.through?, a.handles[handle]? ≠ some place) :
    (a.answer request).2 = (b.answer request).2 := by
  obtain ⟨call, client⟩ := request
  cases call with
  | store handle | cached handle | isCached handle | invalidate handle =>
    simp only [CacheShelf.answer, same.cached (elsewhere handle rfl)]
  | share _ | add => simp only [CacheShelf.answer, same.handles]

/-- A request that makes no handle changes at most the cache that it is made on. -/
theorem sameBut_answer {handle : Nat} (on : request.call.through? = some handle)
    (unmade : request.call.origin? = none) (here : a.handles[handle]? = some place) :
    SameBut place (a.answer request).1 a := by
  have unchanged : SameBut place a a := ⟨rfl, rfl, fun _ _ => rfl⟩
  have changed : ∀ cache, SameBut place (a.setCached handle cache) a := by
    intro cache
    refine ⟨handles_setCached _ _ _, length_caches_setCached _ _ _, ?_⟩
    intro other distinct
    rw [setCached_of_place here]
    exact List.getElem?_set_ne distinct.symm
  obtain ⟨call, client⟩ := request
  cases call with
  | store _ | invalidate _ =>
    cases on
    exact changed _
  | cached _ | isCached _ => exact unchanged
  | share _ | add => cases unmade

end SameBut

/-- Two requests on handles that are no kin, or of which one is on no handle. -/
def Strangers (requests : List CacheRequest) (one other : CacheRequest) : Prop :=
  ∀ a ∈ one.call.through?, ∀ b ∈ other.call.through?, ¬ Kin requests a b

def Answers (before : List CacheRequest) (request : CacheRequest)
    (answer : CacheResult × Option LogRecord) : Prop :=
  match request.call with
  | .store handle =>
    ∃ i kept, FirstStore (before ++ [request]) (Kin (before ++ [request]) handle) i kept ∧
      answer = (.client (some kept), if i < before.length then some .clientDiscarded else none)
  | .cached handle =>
    ∃ held, Holds before (Kin before handle) held ∧ answer = (.client held, none)
  | .isCached handle =>
    ∃ held, Holds before (Kin before handle) held ∧ answer = (.flag held.isSome, none)
  | .invalidate handle =>
    ∃ held, Holds before (Kin before handle) held ∧
      answer = (.nothing, if held.isSome then some .cacheInvalidated else none)
  | .share _ | .add => answer = (.handle (origins before).length, none)

section Run

variable {requests : List CacheRequest} {request : CacheRequest}

theorem holds_kin (grounded : Grounded requests) {handle place : Nat}
    (here : (start.after requests).handles[handle]? = some place) :
    Holds requests (Kin requests handle) ((start.after requests).contents place) := by
  apply holds_after grounded
  intro other otherPlace there
  exact (placed_after grounded).kin_iff_place here there

theorem answers_after (grounded : Grounded (requests ++ [request])) :
    Answers requests request ((start.after requests).answer request).2 := by
  have placed := placed_after grounded.before
  have made := grounded.here
  obtain ⟨call, client⟩ := request
  cases call with
  | store handle =>
    obtain ⟨place, here⟩ := placed.exists_place (made handle rfl)
    have holds := holds_kin grounded.before here
    obtain ⟨i, first, old⟩ := holds.store (placed.kin_iff.mpr ⟨place, here, here⟩) client
    rw [answer_store here]
    have family : Kin (requests ++ [⟨.store handle, client⟩]) = Kin requests := kin_of_unmade rfl
    rw [← family] at first
    exact ⟨i, _, first, by simp only [old]⟩
  | cached handle =>
    obtain ⟨place, here⟩ := placed.exists_place (made handle rfl)
    exact ⟨_, holds_kin grounded.before here, by simp [answer, cached_of_place here]⟩
  | isCached handle =>
    obtain ⟨place, here⟩ := placed.exists_place (made handle rfl)
    exact ⟨_, holds_kin grounded.before here, by simp [answer, cached_of_place here]⟩
  | invalidate handle =>
    obtain ⟨place, here⟩ := placed.exists_place (made handle rfl)
    exact ⟨_, holds_kin grounded.before here, by rw [answer_invalidate here]⟩
  | share _ | add =>
    simp only [Answers, answer, placed.length]

/-- What a handle sees is left alone by a request on a handle that is no kin of it. -/
theorem cached_unmoved (grounded : Grounded (requests ++ [request])) {handle : Nat}
    (made : handle < (origins requests).length)
    (apart : ∀ other ∈ request.call.through?, ¬ Kin requests handle other) :
    (start.after (requests ++ [request])).cached handle = (start.after requests).cached handle := by
  have placed := placed_after grounded.before
  obtain ⟨place, here⟩ := placed.exists_place made
  rw [after_concat]
  cases origin : request.call.origin? with
  | none =>
    obtain ⟨other, on⟩ := CacheCall.exists_through? origin
    obtain ⟨otherPlace, there⟩ := placed.exists_place (grounded.here other on)
    have same := sameBut_answer on origin there
    apply same.cached
    rw [same.handles]
    intro meet
    exact apart other on (placed.kin_iff.mpr ⟨otherPlace, meet, there⟩)
  | some _ =>
    rw [cached_of_place here, cached_of_place (place_answer here request),
      contents_answer_of_made origin]

theorem answer_without {before between later : List CacheRequest} {other : CacheRequest}
    (grounded : Grounded (before ++ request :: (between ++ other :: later)))
    (unmade : request.call.origin? = none)
    (strangers : Strangers (before ++ request :: (between ++ other :: later)) request other) :
    ((start.after (before ++ request :: between)).answer other).2 =
      ((start.after (before ++ between)).answer other).2 := by
  obtain ⟨handle, on⟩ := CacheCall.exists_through? unmade
  obtain ⟨place, here⟩ := (placed_after grounded.before).exists_place (grounded.here handle on)
  have same : SameBut place (start.after (before ++ request :: between))
      (start.after (before ++ between)) := by
    rw [after_append, after_append]
    exact (sameBut_answer on unmade here).after between
  apply same.answer_eq
  intro seen among meet
  apply strangers handle on seen among
  -- Both handles stand where they stood to the end of the run.
  rw [(placed_after grounded).kin_iff]
  refine ⟨place, ?_, ?_⟩
  · rw [after_append]
    exact place_after here _
  · rw [← List.cons_append, ← List.append_assoc, after_append]
    exact place_after meet _

end Run

/-- Each request of a run is answered as its kin decide: a cache holds what was stored first on any
handle that descends from the same one since it was last invalidated on any of these, a store gives
back what is held then and is logged as discarded where that came earlier, and an invalidation is
logged where there was something to remove. What is done on other handles moves nothing that a handle
sees, and could as well have been left out. -/
theorem run_decided_by_kin (requests : List CacheRequest) (grounded : Grounded requests) :
    (∀ before request later, requests = before ++ request :: later →
      ∃ answer, (start.run requests)[before.length]? = some answer ∧
        Answers before request answer) ∧
    (∀ before request later handle, requests = before ++ request :: later →
      handle < (origins before).length →
      (∀ other ∈ request.call.through?, ¬ Kin before handle other) →
      (start.after (before ++ [request])).cached handle = (start.after before).cached handle) ∧
    (∀ before request between other later,
      requests = before ++ request :: (between ++ other :: later) →
      request.call.origin? = none → Strangers requests request other →
      (start.run requests)[(before ++ request :: between).length]? =
        (start.run (before ++ (between ++ other :: later)))[(before ++ between).length]?) := by
  have upTo : ∀ {before request later}, requests = before ++ request :: later →
      Grounded (before ++ [request]) := by
    rintro before request later rfl
    rw [← List.singleton_append, ← List.append_assoc] at grounded
    exact grounded.before
  refine ⟨?_, ?_, ?_⟩
  · intro before request later split
    refine ⟨((start.after before).answer request).2, ?_, answers_after (upTo split)⟩
    rw [split]
    exact run_getElem? start before request later
  · intro before request later handle split made apart
    exact cached_unmoved (upTo split) made apart
  · rintro before request between other later rfl unmade strangers
    have whole := run_getElem? start (before ++ request :: between) other later
    have without := run_getElem? start (before ++ between) other later
    rw [List.append_assoc, List.cons_append] at whole
    rw [List.append_assoc] at without
    rw [whole, without, answer_without grounded unmade strangers]

/-- Handles 0 and 1 share a cache and handle 2 has its own. The store on 0 is answered with the client
that was stored on 1, whether or not there was a store on 2. -/
theorem run_decided_by_kin_two_caches :
    let made : List CacheRequest := [⟨.share 0, ⟨0⟩⟩, ⟨.add, ⟨0⟩⟩, ⟨.store 1, ⟨1⟩⟩]
    let requests := made ++ [⟨.store 2, ⟨2⟩⟩, ⟨.store 0, ⟨3⟩⟩]
    Grounded requests ∧
      (∃ i < 4, FirstStore requests (Kin requests 0) i ⟨1⟩) ∧
      (start.run requests)[4]? = some (.client (some ⟨1⟩), some .clientDiscarded) ∧
      (start.run requests)[4]? = (start.run (made ++ [⟨.store 0, ⟨3⟩⟩]))[3]? := by
  intro made requests
  have grounded : Grounded requests := by decide
  obtain ⟨answered, -, without⟩ := run_decided_by_kin requests grounded
  have here : (start.run requests)[4]? = some (.client (some ⟨1⟩), some .clientDiscarded) := rfl
  refine ⟨grounded, ?_, here, ?_⟩
  · obtain ⟨answer, there, i, kept, first, same⟩ :=
      answered (made ++ [⟨.store 2, ⟨2⟩⟩]) ⟨.store 0, ⟨3⟩⟩ [] rfl
    obtain rfl := Option.some.inj (here.symm.trans there)
    obtain ⟨client, log⟩ := Prod.mk.inj same
    cases client
    have old : i < 4 := by
      by_contra late
      exact nomatch log.trans (if_neg late)
    exact ⟨i, old, first⟩
  · apply without made ⟨.store 2, ⟨2⟩⟩ [] ⟨.store 0, ⟨3⟩⟩ [] rfl rfl
    rintro _ ⟨⟩ _ ⟨⟩ kin
    obtain ⟨place, left, right⟩ := (placed_after grounded).kin_iff.mp kin
    have two : (start.after requests).handles[2]? = some 1 := rfl
    have zero : (start.after requests).handles[0]? = some 0 := rfl
    rw [two] at left
    rw [zero] at right
    cases left
    cases right

end CacheShelf

end ChainFollower

import ChainFollower.Proofs.Rounds
import Mathlib.Data.List.Nodup

/-! What each listener hears of a round. All of them hear the same events equally often; where an
event is sent from inside a callback, those behind the caller hear it before the event that they are
still to be told, and those before it afterwards. -/
namespace ChainFollower

mutual
def Round.sent : Round → Nat
  | .over => 0
  | .call _ conduct rest => conduct.sent + rest.sent

/-- How many events a listener's calls to cancel the sync send, directly or in their turn. -/
def Conduct.sent : Conduct → Nat
  | .returns => 0
  | .panics => 0
  | .registers rest => rest.sent
  | .cancelsSync nested rest => 1 + nested.sent + rest.sent
  | .cancelsRescan rest => rest.sent
end

def Round.heard (position : Nat) (event : Event) : Round → List Event
  | .over => []
  | .call called conduct rest =>
    (if called = position then [event] else []) ++
      List.replicate conduct.sent (.synced false) ++ rest.heard position event

namespace Round

def sentBy (who : Nat → Prop) [DecidablePred who] : Round → Nat
  | .over => 0
  | .call position conduct rest => (if who position then conduct.sent else 0) + rest.sentBy who

/-- Whoever is called hears the event, and everyone hears all that is sent from inside. -/
theorem heard_perm (position : Nat) (event : Event) : ∀ round : Round,
    (round.heard position event).Perm (List.replicate (round.positions.count position) event ++
      List.replicate round.sent (.synced false))
  | .over => List.Perm.refl _
  | .call called conduct rest => by
    have others := heard_perm position event rest
    simp only [heard, positions, sent, List.replicate_add, List.append_assoc]
    have inside := (others.append_left (List.replicate conduct.sent (.synced false))).trans
      (List.perm_append_comm_assoc _ _ _)
    by_cases here : called = position
    · simp only [here, if_true, List.count_cons_self, List.replicate_succ, List.cons_append,
        List.nil_append]
      exact inside.cons event
    · simp only [here, if_false, List.count_cons_of_ne here, List.nil_append]
      exact inside

theorem heard_unsynced (position : Nat) (round : Round) :
    round.heard position (.synced false) =
      List.replicate (round.positions.count position + round.sent) (.synced false) := by
  have heard := round.heard_perm position (.synced false)
  rw [List.replicate_append_replicate] at heard
  exact List.perm_replicate.mp heard

/-- Who is called before all others that are told of an event hears it first, and then what is sent
from inside. -/
theorem heard_ahead {position : Nat} (event : Event) : ∀ round : Round,
    (∀ called ∈ round.positions, position < called) →
      round.heard position event = List.replicate (round.sentBy (position ≤ ·)) (.synced false) ∧
        round.sentBy (· < position) = 0
  | .over, _ => ⟨rfl, rfl⟩
  | .call called conduct rest, behind => by
    have after : position < called := behind called List.mem_cons_self
    obtain ⟨others, none⟩ := heard_ahead event rest
      fun called member => behind called (List.mem_cons_of_mem _ member)
    have other : called ≠ position := by omega
    have later : ¬ called < position := by omega
    have due : position ≤ called := by omega
    simp only [heard, sentBy, other, later, due, if_true, if_false, others, none,
      List.nil_append, List.replicate_append_replicate, and_self]

/-- A listener hears what is sent from inside the calls of those before it, then the event, and then
what is sent from inside its own call and those behind it. -/
theorem heard_eq {position : Nat} (event : Event) : ∀ round : Round,
    round.positions.Pairwise (· < ·) → position ∈ round.positions →
      round.heard position event =
        List.replicate (round.sentBy (· < position)) (.synced false) ++
          event :: List.replicate (round.sentBy (position ≤ ·)) (.synced false)
  | .over, _, member => nomatch member
  | .call called conduct rest, sorted, member => by
    obtain ⟨ahead, others⟩ := List.pairwise_cons.mp sorted
    by_cases here : called = position
    · subst here
      obtain ⟨heard', none⟩ := heard_ahead event rest ahead
      simp only [heard, sentBy, Nat.lt_irrefl, Nat.le_refl, if_true, if_false, heard', none,
        List.replicate_zero, List.nil_append, List.cons_append, List.replicate_append_replicate,
        Nat.add_zero]
    · have inside : position ∈ rest.positions := by
        rcases List.mem_cons.mp member with same | inside
        · exact absurd same.symm here
        · exact inside
      have before : called < position := ahead position inside
      have earlier : ¬ position ≤ called := by omega
      have heard' := heard_eq event rest others inside
      simp only [heard, sentBy, here, before, earlier, if_true, if_false, heard', List.nil_append,
        ← List.append_assoc, List.replicate_append_replicate, Nat.zero_add]

section
variable {position : Nat} {event : Event} {round : Round}

theorem count_called (sorted : round.positions.Pairwise (· < ·))
    (called : position ∈ round.positions) : round.positions.count position = 1 :=
  List.count_eq_one_of_mem (sorted.imp Nat.ne_of_lt) called

/-- What is not sent from inside is heard once. -/
theorem heard_filter (sorted : round.positions.Pairwise (· < ·))
    (called : position ∈ round.positions) :
    (round.heard position event).filter (· ≠ .synced false) =
      [event].filter (· ≠ .synced false) := by
  rw [heard_eq event round sorted called, List.filter_append, ← List.singleton_append,
    List.filter_append]
  simp only [List.filter_replicate, ne_eq, not_true, decide_false, Bool.false_eq_true, if_false,
    List.nil_append, List.append_nil]

end

end Round

namespace Follower

def hearing (f : Follower) (position : Nat) : List Event :=
  (heardBy position f.history).reverse

theorem heardBy_inTale (position : Nat) (history : List Happening) :
    heardBy position (history.filter Happening.inTale) = heardBy position history := by
  unfold heardBy
  rw [List.filterMap_filter]
  congr 1
  funext happening
  cases happening with
  | heard listener event => rfl
  | _ => simp

theorem hearing_eq (f : Follower) (position : Nat) : f.hearing position = heardBy position f.tale := by
  rw [hearing, ← heardBy_inTale]
  exact List.filterMap_reverse.symm

end Follower

mutual
/-- Whoever has callbacks when a round begins hears it as said. -/
theorem Round.heardBy_tale {position : Nat} : ∀ (round : Round) (event : Event) {ears : List Bool},
    ears[position]? = some true → round.Exact ears.length →
      heardBy position (round.tale event ears) = round.heard position event
  | .over, _, _, _, _ => rfl
  | .call called conduct rest, event, ears, hears, exact => by
    obtain ⟨inside, outside⟩ := exact
    have acted := Conduct.heardBy_tale conduct called hears inside
    have still : (ears ++ List.replicate conduct.grown true)[position]? = some true :=
      (List.getElem?_append_left (List.getElem?_eq_some_iff.mp hears).1).trans hears
    have others := Round.heardBy_tale rest event still (by simpa using outside)
    rw [Round.tale, heardBy_append, heardBy_append, acted, others, Round.heard]
    by_cases here : called = position
    · simp [here, hears, heardBy]
    · by_cases told : ears[called]? = some true
      · simp [here, told, heardBy]
      · simp [here, told, heardBy]

theorem Conduct.heardBy_tale {position : Nat} : ∀ (conduct : Conduct) (called : Nat)
    {ears : List Bool}, ears[position]? = some true → conduct.Exact ears.length →
      heardBy position (conduct.tale called ears) = List.replicate conduct.sent (.synced false)
  | .returns, _, _, _, _ => rfl
  | .panics, _, _, _, _ => rfl
  | .registers rest, called, ears, hears, exact => by
    have still : (ears ++ [true])[position]? = some true :=
      (List.getElem?_append_left (List.getElem?_eq_some_iff.mp hears).1).trans hears
    have after : rest.Exact (ears ++ [true]).length := by
      rw [List.length_append]
      exact exact
    exact Conduct.heardBy_tale rest called still after
  | .cancelsSync nested rest, called, ears, hears, exact => by
    obtain ⟨everyone, inside, outside⟩ := exact
    have registered := (List.getElem?_eq_some_iff.mp hears).1
    have sent := Round.heardBy_tale nested (.synced false) hears inside
    have still : (ears ++ List.replicate nested.grown true)[position]? = some true :=
      (List.getElem?_append_left registered).trans hears
    have others := Conduct.heardBy_tale rest called still (by simpa using outside)
    have once : nested.positions.count position = 1 := by
      rw [everyone]
      exact List.count_eq_one_of_mem List.nodup_range (List.mem_range.mpr registered)
    rw [Conduct.tale, heardBy_append, sent, others, Round.heard_unsynced, once,
      List.replicate_append_replicate, Conduct.sent]
  | .cancelsRescan rest, called, _, hears, exact => Conduct.heardBy_tale rest called hears exact
end

end ChainFollower

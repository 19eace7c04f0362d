/-!
Cutting text, kept as a list of characters, at separators.
-/

namespace ChainFollower.Text

/-- The pieces between the elements that satisfy `p`; there is always one piece more than cuts. -/
def splitWhen {α : Type} (p : α → Bool) : List α → List (List α)
  | [] => [[]]
  | c :: rest =>
    if p c then [] :: splitWhen p rest
    else
      match splitWhen p rest with
      | [] => [[c]]
      | piece :: pieces => (c :: piece) :: pieces

/-- What stands before and after the last `c`, if there is one. -/
def splitLast (c : Char) : List Char → Option (List Char × List Char)
  | [] => none
  | x :: rest =>
    match splitLast c rest with
    | some (before, after) => some (x :: before, after)
    | none => if x = c then some ([], rest) else none

/-- The list without its last element, if that is `c`. -/
def dropLast? (c : Char) (s : List Char) : Option (List Char) :=
  if s.getLast? = some c then some s.dropLast else none

theorem splitWhen_ne_nil {α : Type} (p : α → Bool) (s : List α) : splitWhen p s ≠ [] := by
  cases s with
  | nil => simp [splitWhen]
  | cons c rest =>
    simp only [splitWhen]
    split
    · simp
    · split <;> simp

/-- The pieces of two texts with a separator between them are those of the one and then those of the
other. -/
theorem splitWhen_append_cons {α : Type} {p : α → Bool} {c : α} (cuts : p c = true)
    (s t : List α) : splitWhen p (s ++ c :: t) = splitWhen p s ++ splitWhen p t := by
  induction s with
  | nil => simp [splitWhen, cuts]
  | cons x s ih =>
    simp only [List.cons_append, splitWhen, ih]
    split
    · rfl
    · cases h : splitWhen p s with
      | nil => exact absurd h (splitWhen_ne_nil p s)
      | cons piece pieces => rfl

end ChainFollower.Text

import ChainFollower.Follower.Rescan

/-! What is heard of a rescan by what its channel got, and what a wallet offers to send. -/
namespace ChainFollower

namespace Report

def heights : List Report → List Height
  | .height h :: rest => h :: heights rest
  | _ => []

def failure? : List Report → Option WalletError
  | [] => none
  | .height _ :: rest => failure? rest
  | .failure e :: _ => some e

def farthest (reached : List Height) : Height := reached.foldl max 0

@[simp] theorem heights_append (reached : List Height) (rest : List Report) :
    heights (reached.map .height ++ rest) = reached ++ heights rest := by
  induction reached with
  | nil => rfl
  | cons h reached ih => simp [heights, ih]

@[simp] theorem failure?_append (reached : List Height) (rest : List Report) :
    failure? (reached.map .height ++ rest) = failure? rest := by
  induction reached with
  | nil => rfl
  | cons h reached ih => simp [failure?, ih]

@[simp] theorem heights_map (reached : List Height) : heights (reached.map .height) = reached := by
  simpa [heights] using heights_append reached []

@[simp] theorem failure?_map (reached : List Height) : failure? (reached.map .height) = none := by
  simpa [failure?] using failure?_append reached []

/-- What comes behind a failure does not matter. -/
theorem append_of_failed {sent : List Report} {e : WalletError} (failed : failure? sent = some e)
    (more : List Report) :
    heights (sent ++ more) = heights sent ∧ failure? (sent ++ more) = failure? sent := by
  induction sent with
  | nil => simp [failure?] at failed
  | cons report rest ih =>
    cases report with
    | height h =>
      obtain ⟨same, still⟩ := ih failed
      exact ⟨congrArg (h :: ·) same, still⟩
    | failure e => exact ⟨rfl, rfl⟩

theorem farthest_append (reached : List Height) (h : Height) :
    farthest (reached ++ [h]) = max (farthest reached) h := by
  simp [farthest]

def lastEvent (sent : List Report) (cancelled : Bool) : Event :=
  match failure? sent with
  | some e => .syncError .rescanFailed (.wallet e)
  | none => .rescan (farthest (heights sent)) (if cancelled then .progress else .finish)

def events (sent : List Report) (cancelled : Bool) : List Event :=
  (heights sent).map (fun h => .rescan h .progress) ++ [lastEvent sent cancelled]

def outcome (sent : List Report) (cancelled : Bool) : RescanOutcome :=
  match failure? sent with
  | some e => .failed (farthest (heights sent)) e
  | none =>
    if cancelled then .canceled (farthest (heights sent)) else .finished (farthest (heights sent))

end Report

namespace RescanItem

open Report

def between (first last : Height) : List Height :=
  (List.range (last.toInt - first.toInt + 1).toNat).map (fun i : Nat =>
    Int32.ofInt (first.toInt + (i : Int)))

def reports : List RescanItem → List Report
  | [] => []
  | .height h :: rest => .height h :: reports rest
  | .range first last :: rest => (between first last).map .height ++ reports rest
  | .failure e :: rest => .failure e :: reports rest
  | .panic :: _ => []

theorem between_of_lt {first last : Height} (backward : last < first) : between first last = [] := by
  have order : last.toInt < first.toInt := Int32.lt_iff_toInt_lt.mp backward
  have none : (last.toInt - first.toInt + 1).toNat = 0 := by omega
  simp [between, none]

theorem between_self (height : Height) : between height height = [height] := by
  simp [between]

theorem between_cons {first last : Height} (forward : first < last) :
    between first last = first :: between (first + 1) last := by
  have order : first.toInt < last.toInt := Int32.lt_iff_toInt_lt.mp forward
  have low := Int32.le_toInt first
  have high := Int32.toInt_lt last
  have next : (first + 1).toInt = first.toInt + 1 := by
    rw [Int32.toInt_add]
    have one : (1 : Int32).toInt = 1 := rfl
    rw [one]
    apply Int.bmod_eq_of_le <;> omega
  have count : (last.toInt - first.toInt + 1).toNat =
      (last.toInt - (first + 1).toInt + 1).toNat + 1 := by omega
  unfold between
  rw [count, List.range_succ_eq_map, List.map_cons, List.map_map, next]
  congr 1
  · simp
  · apply List.map_congr_left
    intro i _
    have shift : first.toInt + ((i + 1 : Nat) : Int) = first.toInt + 1 + (i : Int) := by omega
    simp only [Function.comp_apply, Nat.succ_eq_add_one, shift]

/-- The next report of a scan comes first in what it offers. -/
theorem reports_next (items : List RescanItem) :
    reports items =
      match ScanStep.next items with
      | .report report rest => report :: reports rest
      | _ => [] := by
  induction items with
  | nil => rfl
  | cons item rest ih =>
    cases item with
    | height h => rfl
    | failure e => rfl
    | panic => rfl
    | range first last =>
      simp only [ScanStep.next, reports]
      by_cases backward : last < first
      · simp only [backward, if_true, between_of_lt, List.map_nil, List.nil_append, ih]
      · by_cases same : first = last
        · subst same
          simp [between_self]
        · have forward : first < last := by
            have order : first.toInt ≤ last.toInt := by
              have apart := mt Int32.lt_iff_toInt_lt.mpr backward
              omega
            have other : first.toInt ≠ last.toInt := fun eq => same (Int32.toInt_inj.mp eq)
            exact Int32.lt_iff_toInt_lt.mpr (by omega)
          simp [backward, same, between_cons forward, reports]

end RescanItem

end ChainFollower

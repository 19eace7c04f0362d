import ChainFollower.Chain

/-!
How far a rescan has come, and when that is worth a line in the log.
-/

namespace ChainFollower

/-- Heights between two lines that nobody forced. -/
def logInterval : Int := 1000

structure Tracker where
  start : Height
  /-- The greatest height that was reported. -/
  scanned : Height
  hasProgress : Bool
  reports : Nat
  logged : Height
  deriving DecidableEq, Repr

namespace Tracker

def new (start : Height) : Tracker := ⟨start, start, false, 0, start⟩

/-- Takes a report. Heights never move back. -/
def record (tracker : Tracker) (height : Height) : Tracker :=
  { tracker with
    scanned := if tracker.scanned ≤ height then height else tracker.scanned
    hasProgress := true
    reports := tracker.reports + 1 }

/-- The difference of two heights, held within the range of heights. -/
def distance (a b : Height) : Int :=
  max (-2147483648) (min 2147483647 (a.toInt - b.toInt))

def isDue (tracker : Tracker) (force : Bool) : Bool :=
  (force || logInterval ≤ distance tracker.scanned tracker.logged) && tracker.hasProgress

/-- Moves the mark to where the rescan is, if a line is due. -/
def log (tracker : Tracker) (force : Bool) : Tracker :=
  if tracker.isDue force then { tracker with logged := tracker.scanned } else tracker

def line (tracker : Tracker) : String :=
  "Rescan progress: scanned through height " ++ toString tracker.scanned.toInt ++ " (" ++
    toString tracker.reports ++ " reports since height " ++ toString tracker.start.toInt ++ ")"

def summary (tracker : Tracker) : String :=
  "Rescan from " ++ toString tracker.start.toInt ++ " to " ++ toString tracker.scanned.toInt ++
    ": " ++ toString tracker.reports ++ " progress reports"

end Tracker

end ChainFollower

import ChainFollower.Log.Record

/-!
The course of a tracker: reports come in, and now and then a line is asked for.
-/

namespace ChainFollower

inductive TrackerCall where
  | record (height : Height)
  /-- Asks for a line, which a rescan forces at its end. -/
  | log (force : Bool)
  deriving DecidableEq, Repr

namespace Tracker

/-- Answers a call, with the line if one is due. -/
def call (tracker : Tracker) : TrackerCall → Tracker × Option LogRecord
  | .record height => (tracker.record height, none)
  | .log force =>
    (tracker.log force, if tracker.isDue force then some (.rescanProgress tracker) else none)

/-- Answers calls one after the other: the tracker after each of them, and the lines. -/
def course : Tracker → List TrackerCall → List (Tracker × Option LogRecord)
  | _, [] => []
  | tracker, call :: rest =>
    let result := tracker.call call
    result :: course result.1 rest

end Tracker

end ChainFollower

import ChainFollower.Follower.Fanout

/-!
Rescans. The wallet scans the chain from height 0 and puts reports into a bounded channel; a reader
takes them out and tells listeners. The last thing that listeners hear of a rescan is a finish, or
the height at which it was cancelled, or the error that ended it.
-/

namespace ChainFollower

/-- The most reports that a channel can be made for. -/
def maxCapacity : Nat := 2305843009213693951

inductive ScanStep where
  | report (report : Report) (rest : List RescanItem)
  | panic
  | exhausted

namespace ScanStep

/-- The first report of the items, with the items behind it. -/
def next : List RescanItem → ScanStep
  | [] => exhausted
  | .height h :: rest => report (.height h) rest
  | .failure e :: rest => report (.failure e) rest
  | .panic :: _ => panic
  | .range first last :: rest =>
    if last < first then next rest
    else if first = last then report (.height first) rest
    else report (.height first) (.range (first + 1) last :: rest)

end ScanStep

namespace Follower

/-- Reports that may wait in a channel, one at least. -/
def channelCapacity (f : Follower) : Nat :=
  max 1 f.config.rescanCapacity.toNat

inductive RescanStart where
  | started (number : Nat)
  | stopped (stop : Stop)

/-- What bars a rescan, or the link that it uses. -/
def rescanLink (f : Follower) : Except SyncError Link :=
  if !f.loader.loaded then .error .walletNotLoaded
  else
    match f.wallet.link with
    | none => .error .notConnected
    | some link => if f.rescanSlot.running then .error .rescanInProgress else .ok link

def occupyRescan (f : Follower) (attempt : Nat) : Follower :=
  { f with
    counts := { f.counts with rescanAttempts := attempt }
    rescanSlot := ⟨true, some (.rescan attempt)⟩ }

def releaseRescan (f : Follower) : Follower :=
  { f with rescanSlot := ⟨false, none⟩ }

/-- Starts a rescan. A channel that cannot be made stops it with a panic. -/
def startRescan (f : Follower) : Follower × RescanStart :=
  match f.rescanLink with
  | .error e => (f, .stopped (.failed e))
  | .ok link =>
    let attempt := f.counts.rescanAttempts + 1
    let f := (f.occupyRescan attempt).log (.rescanStarting link.name)
    if f.channelCapacity > maxCapacity then
      (f.releaseRescan, .stopped (.panicked
        s!"a semaphore may not have more than MAX_PERMITS permits ({maxCapacity})"))
    else
      let number := f.counts.rescans + 1
      let job : RescanJob := ⟨number, attempt, link, .ready, [], Tracker.new 0, true⟩
      ({ f with counts := { f.counts with rescans := number }, rescans := f.rescans ++ [job] },
        .started number)

/-- One step of the wallet's side of a rescan; nothing if it has to wait. -/
def produce (f : Follower) (job : RescanJob) : Option (Follower × RescanJob) :=
  let token : Token := .rescan job.attempt
  match job.producer with
  | .ended => none
  | .ready =>
    some ({ f.saw (.rescan job.link) with lastRescan := some job.number },
      { job with producer := .scanning f.wallet.rescan none })
  | .scanning script (some report) =>
    if !job.reading then some (f, { job with producer := .ended })
    else if job.channel.length < f.channelCapacity then
      some (f, { job with
        producer := .scanning script none, channel := job.channel ++ [report] })
    else none
  | .scanning script none =>
    let stops := f.isCancelled token && !script.ignoresCancel
    match ScanStep.next script.items with
    | .report report rest =>
      if stops then some (f, { job with producer := .ended })
      else some (f, { job with producer := .scanning { script with items := rest } (some report) })
    | .panic => some (f, { job with producer := .ended })
    | .exhausted =>
      match script.ending with
      | .wait => if stops then some (f, { job with producer := .ended }) else none
      | .close => some (f, { job with producer := .ended })
      | .panic => some (f, { job with producer := .ended })

def logProgress (f : Follower) (tracker : Tracker) (force : Bool) : Follower × Tracker :=
  (if tracker.isDue force then f.log (.rescanProgress tracker) else f, tracker.log force)

/-- The reader has ended: nothing is running any more. -/
def endRescan (f : Follower) (job : RescanJob) (outcome : RescanOutcome) : Follower × RescanJob :=
  (f.releaseRescan.note (.rescanEnded job.number outcome),
    { job with channel := [], reading := false })

def takeReport (f : Follower) (job : RescanJob) (rest : List Report) :
    Report → Follower × RescanJob
  | .height h =>
    let tracker := job.tracker.record h
    let shown := (f.broadcast (.rescan h .progress)).logProgress tracker false
    (shown.1, { job with channel := rest, tracker := shown.2 })
  | .failure e =>
    let f := ((f.log (.rescanFailed e)).cancel (.rescan job.attempt)).broadcast
      (.syncError .rescanFailed (.wallet e))
    endRescan f { job with channel := rest } (.failed job.tracker.scanned e)

def closeRescan (f : Follower) (job : RescanJob) : Follower × RescanJob :=
  let scanned := job.tracker.scanned
  let f := f.log (.rescanSummary job.tracker)
  if f.isCancelled (.rescan job.attempt) then
    endRescan ((f.log (.rescanCanceled scanned)).broadcast (.rescan scanned .progress)) job
      (.canceled scanned)
  else
    let shown := f.logProgress job.tracker true
    endRescan (shown.1.broadcast (.rescan scanned .finish)) { job with tracker := shown.2 }
      (.finished scanned)

/-- One step of the reader; nothing if it has to wait. -/
def consume (f : Follower) (job : RescanJob) : Option (Follower × RescanJob) :=
  if !job.reading then none
  else
    match job.channel with
    | report :: rest => some (f.takeReport job rest report)
    | [] =>
      match job.producer with
      | .ended => some (f.closeRescan job)
      | _ => none

end Follower

end ChainFollower

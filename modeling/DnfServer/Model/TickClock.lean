import Mathlib.Data.Int.Notation

/-!
# The deadlines of the tick

The members of `DungeonTickService` that decide when a tick runs, and its statistics. Times are
nanoseconds of the steady clock, whose range ends long before that of the counters. What a tick does to
the dungeons between its clock readings is left out.
-/

namespace DnfServer

def dungeonTicksPerSecond : Int := 30
def maxDungeonCatchUpTicks : Nat := 2

/-- `TICK_INTERVAL`, a whole number of microseconds. -/
def tickInterval : Int := 1000000 / dungeonTicksPerSecond * 1000

structure DungeonTickStats where
  processedTickCount : Nat := 0
  missedTickCount : Nat := 0
  lastLateness : Int := 0
  maxLateness : Int := 0
  lastProcessingTime : Int := 0
  maxProcessingTime : Int := 0
  deriving DecidableEq

/-- What the wait for the timer ends with. -/
inductive TimerResult where
  | expired
  | operationAborted
  | failed
  deriving DecidableEq

/-- The clock readings of one `HandleTick`, in their order. -/
structure TickTimes where
  processingStartedAt : Int
  processingEndedAt : Int
  deadlineCheckedAt : Int

structure DungeonTickClock where
  running : Bool := false
  nextTick : Int := 0
  stats : DungeonTickStats := {}
  /-- The expiry of the wait under way. -/
  timer : Option Int := none
  deriving DecidableEq

namespace DungeonTickClock

def scheduleNextTick (clock : DungeonTickClock) : DungeonTickClock :=
  if clock.running then { clock with timer := some clock.nextTick } else clock

/-- What `Start` does before it dispatches. -/
def start (clock : DungeonTickClock) : DungeonTickClock := { clock with running := true }

/-- What `Start` dispatches to the strand. -/
def begin (now : Int) (clock : DungeonTickClock) : DungeonTickClock :=
  if clock.running then scheduleNextTick { clock with nextTick := now + tickInterval } else clock

/-- What `Stop` does before it dispatches. -/
def stop (clock : DungeonTickClock) : DungeonTickClock := { clock with running := false }

/-- What `Stop` dispatches to the strand. -/
def cancel (clock : DungeonTickClock) : DungeonTickClock := { clock with timer := none }

def advanceDeadline (now : Int) (clock : DungeonTickClock) : DungeonTickClock :=
  let nextTick := clock.nextTick + tickInterval
  if nextTick > now then { clock with nextTick }
  else
    let overdueTickCount := ((now - nextTick) / tickInterval).toNat + 1
    if overdueTickCount ≤ maxDungeonCatchUpTicks then { clock with nextTick }
    else
      let skippedTickCount := overdueTickCount - maxDungeonCatchUpTicks
      { clock with
        nextTick := nextTick + tickInterval * skippedTickCount
        stats := { clock.stats with missedTickCount := clock.stats.missedTickCount + skippedTickCount } }

/-- The part of `HandleTick` before the dungeons are processed. -/
def beginProcessing (processingStartedAt : Int) (clock : DungeonTickClock) : DungeonTickClock :=
  let lateness := if processingStartedAt > clock.nextTick then processingStartedAt - clock.nextTick else 0
  { clock with stats := { clock.stats with
      processedTickCount := clock.stats.processedTickCount + 1
      lastLateness := lateness
      maxLateness := max clock.stats.maxLateness lateness } }

/-- The time that the tick has taken, when the dungeons are processed. -/
def endProcessing (times : TickTimes) (clock : DungeonTickClock) : DungeonTickClock :=
  let processingTime := times.processingEndedAt - times.processingStartedAt
  { clock with stats := { clock.stats with
      lastProcessingTime := processingTime
      maxProcessingTime := max clock.stats.maxProcessingTime processingTime } }

def handleTick (result : TimerResult) (times : TickTimes) (clock : DungeonTickClock) : DungeonTickClock :=
  if ¬ clock.running ∨ result = .operationAborted then clock
  else if result = .failed then clock.stop.cancel
  else
    let clock := (clock.beginProcessing times.processingStartedAt).endProcessing times
    (clock.advanceDeadline times.deadlineCheckedAt).scheduleNextTick

end DungeonTickClock

/-- What other threads and the strand do with the tick service. -/
inductive ClockStep where
  | start
  | begin (now : Int)
  | stop
  | cancel
  | handleTick (result : TimerResult) (times : TickTimes)

def DungeonTickClock.step (clock : DungeonTickClock) : ClockStep → DungeonTickClock
  | .start => clock.start
  | .begin now => clock.begin now
  | .stop => clock.stop
  | .cancel => clock.cancel
  | .handleTick result times => clock.handleTick result times

end DnfServer

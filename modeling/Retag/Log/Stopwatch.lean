import Retag.Log.Journal
import Retag.Decimal.Double
import Retag.Failure

/-!
# Stopwatch

A stopwatch times a block of work and logs one event when the block ends: an
error if the work failed, a warning if it took longer than a limit, and a detail
otherwise.

Times are exact fractions of seconds, and are compared with the limit as they
are. The event shows the duration in milliseconds, rounded to a floating-point
number. `duration` keeps the length of the last block, also while the next one runs.
-/

namespace Retag.Log

open Decimal

/-- A stopwatch. -/
structure Stopwatch where
  /-- When the current or last block began. -/
  start : Option Rat
  /-- How long the last finished block took. -/
  elapsed : Option Rat
  deriving DecidableEq, Repr

namespace Stopwatch

/-- A stopwatch that was never used. -/
def unused : Stopwatch := ⟨none, none⟩

/-- Milliseconds in a second. -/
def perSecond : Rat := 1000

/-- The floating-point number nearest to a fraction. -/
def nearest (x : Rat) : Double := Double.ofRatio (decide (x.num < 0)) x.num.natAbs x.den

/-- Begins a block. -/
def enter (w : Stopwatch) (now : Rat) : Stopwatch := { w with start := some now }

/-- Ends a block. -/
def exit (w : Stopwatch) (now : Rat) : Stopwatch :=
  { w with elapsed := some (now - w.start.getD 0) }

/-- Whether reading the duration reads the clock. -/
def isRunning (w : Stopwatch) : Bool := w.start.isSome && w.elapsed.isNone

/-- The duration in milliseconds, at a time. -/
def duration (w : Stopwatch) (now : Rat) : Rat :=
  match w.start, w.elapsed with
  | none, _ => 0
  | some start, none => (now - start) * perSecond
  | some _, some elapsed => elapsed * perSecond

/-- A block that has ended took the time since it began, whenever it is asked for. -/
theorem duration_exit {w : Stopwatch} {start : Rat} (hStart : w.start = some start)
    (now later : Rat) : (w.exit now).duration later = (now - start) * perSecond := by
  simp only [exit, duration, hStart, Option.getD_some]

end Stopwatch

/-- What a stopwatch times, and what it adds to the event. -/
structure Timing where
  operation : String
  /-- The longest duration in milliseconds that is not slow. -/
  limit : Double
  fields : List (String × Value)

namespace Timing

/-- The limit unless another one is given: fifty milliseconds. -/
def defaultLimit : Double := Double.ofInt 50

/-- The event of a block that ended well. -/
def completed (t : Timing) (duration : Rat) : Event :=
  let slow := t.limit.below duration
  ⟨if slow then .warning else .debug, t.operation ++ " completed",
    [("duration_ms", .float (Stopwatch.nearest duration)), ("slow", .bool slow)]
    ++ t.fields⟩

/-- The event of a block that failed. -/
def failed (t : Timing) (duration : Rat) (fault : EngineFault) : Event :=
  ⟨.error, t.operation ++ " failed",
    [("duration_ms", .float (Stopwatch.nearest duration)),
      ("error", .text fault.message), ("error_type", .text fault.name)] ++ t.fields⟩

/-- The event of a block that ended, well or not. -/
def ended (t : Timing) (duration : Rat) : Option EngineFault → Event
  | none => t.completed duration
  | some fault => t.failed duration fault

end Timing

/-- A step in the life of a stopwatch. -/
inductive StopwatchStep where
  | duration
  | enter
  /-- Ends a block, well or with a fault. -/
  | exit (fault : Option EngineFault)
  deriving DecidableEq, Repr

/-- What a step of a stopwatch answers. -/
inductive StopwatchAnswer where
  | duration (shown : Double)
  | entered
  | exited (event : Event)

/-- The reading of a clock, and the readings after it. The last reading is repeated. -/
def nextReading : List Rat → Rat × List Rat
  | [] => (0, [])
  | [last] => (last, [last])
  | now :: later => (now, later)

/-- One step, with the readings that the clock gives from here on. -/
def StopwatchStep.run (t : Timing) (step : StopwatchStep) (w : Stopwatch)
    (clock : List Rat) :
    StopwatchAnswer × Stopwatch × List Rat :=
  match step with
  | .enter =>
    let (now, later) := nextReading clock
    (.entered, w.enter now, later)
  | .duration =>
    if w.isRunning then
      let (now, later) := nextReading clock
      (.duration (Stopwatch.nearest (w.duration now)), w, later)
    else (.duration (Stopwatch.nearest (w.duration 0)), w, clock)
  | .exit fault =>
    let (now, later) := nextReading clock
    let w := w.exit now
    (.exited (t.ended (w.duration now) fault), w, later)

/-- The answers to several steps. -/
def runStopwatch (t : Timing) :
    List StopwatchStep → Stopwatch → List Rat → List StopwatchAnswer
  | [], _, _ => []
  | step :: rest, w, clock =>
    let (answer, w, clock) := step.run t w clock
    answer :: runStopwatch t rest w clock

end Retag.Log

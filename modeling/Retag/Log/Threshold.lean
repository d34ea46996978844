import Retag.Log.Event
import Retag.Failure
import Retag.Text.LetterCase

/-!
# The least level that is written

A host chooses the least level of the events that are written, by its name in
any case of letters.
-/

namespace Retag.Log

/-- The ranks of the names of levels. -/
def levelRanks : List (String × Nat) :=
  [("NOTSET", 0), ("DEBUG", 10), ("INFO", 20), ("WARNING", 30), ("WARN", 30),
    ("ERROR", 40), ("CRITICAL", 50), ("FATAL", 50)]

/-- The least level unless another one is given. -/
def defaultThreshold : String := "INFO"

/-- The rank of a level's name. -/
def thresholdOf (name : String) : Except Failure Nat :=
  match levelRanks.lookup (Text.upper name) with
  | some rank => .ok rank
  | none => .error (.unknownLevel (Text.upper name))

/-- The level that a name of an event's level stands for. -/
def Level.ofName? : String → Option Level
  | "debug" => some .debug
  | "info" | "msg" => some .info
  | "warning" | "warn" => some .warning
  | "error" => some .error
  | "critical" | "fatal" => some .critical
  | _ => none

/-- The field that holds the level in a written line. -/
def levelField : String := "level"

/-- The field that holds the text in a written line. -/
def textField : String := "event"

/-- The fields of a written line: those of the event, its text, and its level
instead of any field of that name. -/
def Event.line (e : Event) : List (String × Value) :=
  (e.fields.filter fun field => field.1 != levelField)
    ++ [(textField, .text e.text), (levelField, .text e.level.name)]

/-- The events that are written. -/
def written (threshold : Nat) (events : List Event) : List Event :=
  events.filter fun e => threshold ≤ e.level.rank

end Retag.Log

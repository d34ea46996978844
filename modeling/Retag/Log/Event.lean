import Retag.Value.Basic

/-!
# Log events

An event has a level, a text, and fields in the order in which they were given.
The name of the template in scope is added to the fields, unless it is empty or
the event has such a field itself.
-/

namespace Retag.Log

/-- How serious an event is. -/
inductive Level where
  | debug
  | info
  | warning
  | error
  | critical
  deriving DecidableEq, Repr

/-- The name of a level in events. -/
def Level.name : Level → String
  | .debug => "debug"
  | .info => "info"
  | .warning => "warning"
  | .error => "error"
  | .critical => "critical"

/-- The rank of a level; an event is dropped if its rank is below the least one
asked for. -/
def Level.rank : Level → Nat
  | .debug => 10
  | .info => 20
  | .warning => 30
  | .error => 40
  | .critical => 50

/-- An event. -/
structure Event where
  level : Level
  text : String
  fields : List (String × Value)

/-- The field that holds the name of the template in scope. -/
def templateField : String := "template_name"

/-- Fields with the name of the template in scope. -/
def withTemplate (scope : Option String) (fields : List (String × Value)) :
    List (String × Value) :=
  match scope with
  | none => fields
  | some name =>
    if name.isEmpty || (fields.lookup templateField).isSome then fields
    else fields ++ [(templateField, .text name)]

/-- An event as it is logged while a template is in scope. -/
def Event.inScope (scope : Option String) (e : Event) : Event :=
  { e with fields := withTemplate scope e.fields }

end Retag.Log

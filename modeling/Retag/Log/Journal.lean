import Retag.Log.Event

/-!
# The journal of a run

What a run leaves behind, and what it reads on the way: the clock, the name of
the template in scope, the events, and the compile calls that engines received.
Work on a journal is a function that takes the journal and returns it with its answer.

`Journal.inScope` binds a name while some work runs. The binding of before is
put back afterwards whatever the work answers; without a name the binding of
before holds for the work as well.
-/

namespace Retag.Log

/-- A compile call that an engine received. -/
structure CompileCall where
  /-- The number of the engine, unless it has none. -/
  engine : Option Nat
  source : Value
  path : Option String

/-- What a run reads and leaves behind. -/
structure Journal where
  clock : Rat
  /-- The name of the template in scope. -/
  scope : Option String
  events : List Event
  calls : List CompileCall

namespace Journal

/-- The journal of a run that begins. -/
def empty : Journal := ⟨0, none, [], []⟩

/-- Logs an event, with the name of the template in scope. -/
def log (j : Journal) (e : Event) : Journal :=
  { j with events := j.events ++ [e.inScope j.scope] }

/-- Records a compile call. -/
def record (j : Journal) (c : CompileCall) : Journal :=
  { j with calls := j.calls ++ [c] }

/-- Lets time pass. -/
def pass (j : Journal) (seconds : Rat) : Journal :=
  { j with clock := j.clock + seconds }

/-- Forgets the events and the calls. -/
def clear (j : Journal) : Journal := { j with events := [], calls := [] }

/-- Runs some work while a name is bound. -/
def inScope {α : Type} (name : Option String) (work : Journal → α × Journal)
    (j : Journal) :
    α × Journal :=
  match name with
  | none => work j
  | some _ =>
    let (answer, after) := work { j with scope := name }
    (answer, { after with scope := j.scope })

@[simp] theorem scope_log (j : Journal) (e : Event) : (j.log e).scope = j.scope := rfl

end Journal

end Retag.Log

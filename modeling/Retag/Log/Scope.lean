import Retag.Log.Journal
import Retag.Failure

/-!
# Programs with scopes

A program reads the name in scope, makes events, opens scopes, fails, and
catches failures. `run` executes it on a journal and lists what was seen. A
failure leaves every scope it crosses, and what was seen before it is kept.
-/

namespace Retag.Log

/-- A step of a program with scopes. -/
inductive ScopeStep where
  | see
  | event (fields : List (String × Value))
  /-- Runs steps with a name in scope; without a name the scope stays. -/
  | scope (name : Option String) (steps : List ScopeStep)
  | fail (text : String)
  | catching (steps : List ScopeStep)
  deriving Inhabited

/-- Something that a program saw. -/
inductive Sight where
  | name (name : Option String)
  | fields (fields : List (String × Value))
  | caught (text : String)

/-- What some steps saw, and the text of the failure that ended them, if one did. -/
structure Outcome where
  seen : List Sight
  failure : Option String

/-- What was seen before an outcome, put in front of it. -/
def Outcome.after (seen : List Sight) (o : Outcome) : Outcome :=
  ⟨seen ++ o.seen, o.failure⟩

/-- An outcome whose failure is caught. -/
def Outcome.catching (o : Outcome) : Outcome :=
  match o.failure with
  | none => o
  | some text => ⟨o.seen ++ [.caught text], none⟩

mutual

/-- Executes one step. -/
def ScopeStep.run : ScopeStep → Journal → Outcome × Journal
  | .see, j => (⟨[.name j.scope], none⟩, j)
  | .event fields, j => (⟨[.fields (withTemplate j.scope fields)], none⟩, j)
  | .scope name steps, j => j.inScope name (runSteps steps)
  | .fail text, j => (⟨[], some text⟩, j)
  | .catching steps, j =>
    let (o, after) := runSteps steps j
    (o.catching, after)

/-- Executes steps until one fails. -/
def runSteps : List ScopeStep → Journal → Outcome × Journal
  | [], j => (⟨[], none⟩, j)
  | step :: rest, j =>
    let (o, after) := step.run j
    match o.failure with
    | some _ => (o, after)
    | none =>
      let (more, last) := runSteps rest after
      (more.after o.seen, last)

end

/-- What a program saw, and the name in scope after it; or the failure that it
did not catch. -/
def runProgram (steps : List ScopeStep) : Except Failure (List Sight) :=
  let (o, after) := runSteps steps .empty
  match o.failure with
  | some text => .error (.engine (.probe text))
  | none => .ok (o.seen ++ [.name after.scope])

end Retag.Log

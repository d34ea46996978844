import Retag.Engine.Basic
import Retag.Log.Stopwatch
import Retag.Guard

/-!
# Templates

A template has segments, a guard, and the engine that compiles its native text.
It is compiled when it is made, or with its first rendering if it is lazy; the
program is then kept. A rendering gives the engine's answer with the guarded
characters put back.
-/

namespace Retag

open Log

/-- Runs compile work and logs how it ended. -/
def timed {α : Type} (t : Timing) (work : Journal → Except EngineFault α × Journal)
    (j : Journal) :
    Except EngineFault α × Journal :=
  let watch := Stopwatch.unused.enter j.clock
  let (answer, after) := work j
  let duration := (watch.exit after.clock).duration after.clock
  match answer with
  | .ok x => (.ok x, after.log (t.completed duration))
  | .error fault => (.error fault, after.log (t.failed duration fault))

/-- A template. -/
structure Template (Program : Type) where
  segments : List Segment
  guard : Guard
  name : Option String
  /-- The path that the engine is given. -/
  path : Option String
  engine : NumberedEngine Program
  /-- The compiled native text, once there is one. -/
  program : Option Program

/-- What the rendering of a template gives. -/
structure TemplateRendering (Program : Type) where
  answer : Except Failure Text
  /-- The names of the templates that were inserted, in order. -/
  inserted : List String
  template : Template Program
  journal : Journal

namespace Template

variable {Program : Type}

/-- The native text that the engine compiles. -/
def nativeText (t : Template Program) : Except Failure Text :=
  orFail .ofWrite (assemble t.guard t.segments)

/-- The native text without the sentinels of guarded characters. -/
def nativeSource (t : Template Program) : Except Failure Text :=
  t.nativeText.map t.guard.strip

/-- Whether the template is compiled. -/
def isCompiled (t : Template Program) : Bool := t.program.isSome

/-- What is timed when a template is compiled. -/
def timing (t : Template Program) : Timing :=
  ⟨"Native compile", Timing.defaultLimit, [("segments", .int t.segments.length)]⟩

/-- Compiles native text under the template's name. -/
def compileText (t : Template Program) (text : Text) (j : Journal) :
    Except EngineFault Program × Journal :=
  j.inScope t.name
    (timed t.timing (t.engine.compile (.text (String.ofList text)) t.path))

/-- Compiles the template. -/
def build (t : Template Program) (j : Journal) : Except Failure Program × Journal :=
  match t.nativeText with
  | .error e => (.error e, j)
  | .ok text =>
    let (answer, after) := t.compileText text j
    (orFail .engine answer, after)

/-- The program of the template: the one that is kept, or a new one. -/
def programOr (t : Template Program) (j : Journal) :
    Except Failure Program × Journal :=
  match t.program with
  | some program => (.ok program, j)
  | none => t.build j

/-- A template with a program. -/
def withProgram (t : Template Program) (program : Program) : Template Program :=
  { t with program := some program }

/-- Makes a template, compiled unless it is lazy. -/
def create (isLazy : Bool) (t : Template Program) (j : Journal) :
    Except Failure (Template Program) × Journal :=
  if isLazy then (.ok t, j)
  else
    let (answer, after) := t.build j
    (answer.map t.withProgram, after)

/-- A text that the engine gave, with the guarded characters put back. -/
def restored (t : Template Program) (answer : Except Failure Value) :
    Except Failure Text := do
  orFail .ofGuard (t.guard.restore (← answer).plain.toList)

/-- Renders the template. -/
def render (t : Template Program) (call : Call) (j : Journal) :
    TemplateRendering Program :=
  match t.programOr j with
  | (.error e, after) => ⟨.error e, [], t, after⟩
  | (.ok program, after) =>
    let r := t.engine.engine.render program call
    ⟨t.restored r.answer, r.inserted, t.withProgram r.program, after⟩

end Template

end Retag

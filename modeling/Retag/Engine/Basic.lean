import Retag.Mustache.Render
import Retag.Log.Journal

/-!
# Engines

An engine compiles native text to a program and renders programs. It may be any;
`Program` stands for what it compiles to. A program may change from one
rendering to the next, for instance by counting them, so a rendering gives back
the program as it is afterwards.
-/

namespace Retag

open Mustache Log

/-- What a rendering is called with. -/
structure Call where
  context : Context
  helpers : Option (List Helper)
  /-- The templates that can be inserted by name, if any were passed. -/
  partials : Option (List (String × Inclusion))

/-- The result of a rendering. -/
structure Rendered (Program : Type) where
  answer : Except Failure Value
  /-- The names of the templates that were inserted, in order. -/
  inserted : List String
  program : Program

/-- An engine. -/
structure Engine (Program : Type) where
  /-- Compiles a template, which may have a path. -/
  compile : Value → Option String → Except EngineFault Program
  render : Program → Call → Rendered Program
  /-- The time that a compile call takes, in seconds. -/
  cost : Rat
  isObserved : Bool

/-- An engine with the number under which its compile calls are recorded. -/
structure NumberedEngine (Program : Type) where
  /-- The number, if the engine has one. -/
  number : Option Nat
  engine : Engine Program

/-- A compile call on a journal: it is recorded, and takes its time. -/
def NumberedEngine.compile {Program : Type} (e : NumberedEngine Program)
    (source : Value)
    (path : Option String) (j : Journal) : Except EngineFault Program × Journal :=
  (e.engine.compile source path,
    (j.record ⟨e.number, source, path⟩).pass e.engine.cost)

end Retag

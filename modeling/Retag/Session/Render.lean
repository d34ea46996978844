import Retag.Session.Basic

/-!
# Rendering in a session

A rendering may insert other templates of the session by name. What they give
does not depend on whether they were compiled before, so the rendering first
works with the templates as they stand, and those it inserted are compiled in
the session afterwards, in the order in which they were reached.
-/

namespace Retag

open Log Mustache

/-- The names of templates that can be inserted, with the names that the session
has for them. -/
abbrev InclusionNames := List (String × String)

/-- What the user asks of a rendering. -/
structure RenderRequest where
  context : Value
  helpers : Option (List Helper)
  /-- The templates that can be inserted, if any are passed. -/
  partials : Option InclusionNames

/-- The rendering of some program as an insertion. -/
def Rendered.inclusion {Program : Type} (r : Rendered Program)
    (finish : Except Failure Value → Except Failure Text) : Rendering Text := do
  modify (· ++ r.inserted)
  ExceptT.mk (pure (finish r.answer))

/-- The text of an answer. -/
def plainText (answer : Except Failure Value) : Except Failure Text :=
  answer.map fun v => v.plain.toList

/-- The program of a template, made anew if it is not kept. -/
def Template.currentProgram {Program : Type} (t : Template Program) :
    Except Failure Program :=
  match t.program with
  | some program => .ok program
  | none => do
    let text ← t.nativeText
    orFail .engine (t.engine.engine.compile (.text (String.ofList text)) t.path)

/-- What was compiled, as an insertion. -/
def Compiled.inclusion {Program : Type} (call : Call) :
    Compiled Program → Rendering Text
  | .native engine program => (engine.render program call).inclusion plainText
  | .template t =>
    match t.currentProgram with
    | .error e => throw e
    | .ok program => (t.engine.engine.render program call).inclusion t.restored

/-- The number of insertions inside one another that are followed. -/
def insertionDepth : Nat := 200

namespace Session

variable {Program : Type}

/-- What was compiled under a name that can be inserted. -/
def included? (s : Session Program) (names : InclusionNames) (name : String) :
    Option (Compiled Program) := do
  s.templates.lookup (← names.lookup name)

/-- The template with a name as an insertion; the number bounds the depth. -/
def inclusion (s : Session Program) (helpers : Option (List Helper))
    (names : InclusionNames) :
    Nat → String → Inclusion
  | 0, _ => fun _ => throw (.engine .mustache)
  | depth + 1, name => fun c =>
    match s.included? names name with
    | none => throw (.engine .mustache)
    | some compiled =>
      compiled.inclusion
        ⟨c, helpers,
          some (names.map fun entry =>
            (entry.1, s.inclusion helpers names depth entry.1))⟩

/-- The call of a rendering. -/
def callOf (s : Session Program) (r : RenderRequest) : Call :=
  ⟨.plain r.context, r.helpers,
    r.partials.map fun names =>
      names.map fun entry =>
        (entry.1, s.inclusion r.helpers names insertionDepth entry.1)⟩

/-- Compiles the template with a name, unless it is compiled. -/
def ensureCompiled (s : Session Program) (name : String) : Session Program :=
  match s.templates.lookup name with
  | some (.template t) =>
    match t.programOr s.journal with
    | (.ok program, j) =>
      { s with journal := j }.bind name (.template (t.withProgram program))
    | (.error _, j) => { s with journal := j }
  | _ => s

/-- Compiles the templates that were inserted. -/
def ensureInserted (s : Session Program) (names : InclusionNames)
    (inserted : List String) :
    Session Program :=
  (inserted.filterMap fun name => names.lookup name).foldl ensureCompiled s

/-- Renders what was compiled under a name. -/
def render (s : Session Program) (name : String) (compiled : Compiled Program)
    (r : RenderRequest) : Except Failure Text × Session Program :=
  match compiled with
  | .native engine program =>
    let found := engine.render program (s.callOf r)
    (plainText found.answer,
      (s.bind name (.native engine found.program)).ensureInserted (r.partials.getD [])
        found.inserted)
  | .template t =>
    let found := t.render (s.callOf r) s.journal
    (found.answer,
      ({ s with journal := found.journal }.bind name
        (.template found.template)).ensureInserted (r.partials.getD []) found.inserted)

end Session

end Retag

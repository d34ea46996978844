import Retag.Session.Render

/-!
# Steps of a session

A step asks one thing of a session. `Session.perform` answers it and gives the
session as it is afterwards; a step that fails leaves what it did so far.
`Session.run` performs steps in order and reports, for each, the answer, the
events, and the compile calls that observed engines received.
-/

namespace Retag

open Log

/-- An engine that a step names, or a new one. -/
inductive EngineChoice (Program : Type) where
  | named (name : String)
  /-- A new engine that no name stands for. -/
  | fresh (engine : Engine Program)

/-- A request to compile a source. -/
structure CompileRequest (Program : Type) where
  source : Value
  delimiters : Value
  engine : EngineChoice Program
  cache : Option String
  /-- The guard, unless it is the default one. -/
  guard : Option (List (Text × Text))
  path : Option String

/-- A request to make a template of segments. -/
structure TemplateRequest where
  segments : List Segment
  engine : String
  /-- Whether it is compiled with its first rendering only. -/
  isLazy : Bool
  /-- The guard, unless it is the default one. -/
  guard : Option (List (Text × Text))
  name : Option String

/-- A step. -/
inductive Step (Program : Type) where
  | makeEngine (name : String) (engine : Engine Program)
  | makeCache (name : String)
  | cacheGet (name : Option String) (source : Text)
  /-- Asks for the size of a cache. -/
  | cacheSize (name : String)
  /-- Asks whether a cache has a matcher under a value. -/
  | cacheHas (name : String) (source : Value)
  | cacheClear (name : String)
  /-- Asks whether two texts have the same matcher. -/
  | cacheSame (name : String) (first second : Text)
  | rewrite (source : Text) (isEscaping : Bool) (text : Text) (cache : Option String)
  | install (engine : String) (delimiters : Value) (cache : Option String)
  | uninstall (engine : String)
  | isPatched (engine : String)
  | compile (engine : String) (source : Value) (path : Option String) (target : String)
  | compileTemplate (request : CompileRequest Program) (target : String)
  | makeTemplate (request : TemplateRequest) (target : String)
  | inspect (target : String)
  | render (target : String) (request : RenderRequest)

/-- What can be told about a compiled template. -/
inductive Description where
  /-- It is a program of the engine. -/
  | native
  | template (name : Option String) (isCompiled : Bool) (segments : List Segment)
      (nativeSource : Except Failure Text)

/-- What can be told about what was compiled. -/
def Compiled.description {Program : Type} : Compiled Program → Description
  | .native .. => .native
  | .template t => .template t.name t.isCompiled t.segments t.nativeSource

/-- The answer to a step. -/
inductive Answer where
  | nothing
  | flag (b : Bool)
  | number (n : Nat)
  | text (text : Text)
  | description (d : Description)

/-- The answer where a name stands for nothing that was compiled. -/
def noTemplate : Answer := .text "no template".toList

/-- The event of an engine that was patched. -/
def installedEvent (markers : MarkerSet) : Event :=
  ⟨.debug, "Delimiters installed",
    [("two_tier", .bool markers.isTwoTier), ("native", .bool markers.isNative)]⟩

/-- The event of an engine whose patch was removed. -/
def uninstalledEvent : Event := ⟨.debug, "Delimiters uninstalled", []⟩

/-- The guard that a request asks for. -/
def guardOf : Option (List (Text × Text)) → Except Failure Guard
  | none => .ok .default
  | some pairs => orFail .ofGuard (Guard.ofPairs pairs)

namespace Session

variable {Program : Type}

/-- Puts what was compiled under a name and describes it. -/
def keep (target : String) : Except Failure (Compiled Program) × Session Program →
    Except Failure Answer × Session Program
  | (.ok compiled, s) =>
    (.ok (.description compiled.description), s.bind target compiled)
  | (.error e, s) => (.error e, s)

/-- Patches an engine, whatever patch it had. -/
def install (s : Session Program) (name : String) (delimiters : Value)
    (cache : Option String) :
    Except Failure Answer × Session Program :=
  match MarkerSet.ofValue delimiters with
  | .error e => (.error e, s)
  | .ok markers =>
    match s.engine? name with
    | none => (.ok .nothing, s)
    | some (number, state) =>
      (.ok .nothing,
        (s.setEngine number (state.patchWith ⟨markers, s.cacheNumber cache⟩)).log
          (installedEvent markers))

/-- Restores the compile method that an engine had before it was patched, and
tells whether there was one. -/
def uninstall (s : Session Program) (name : String) :
    Except Failure Answer × Session Program :=
  match s.engine? name with
  | some (number, ⟨engine, _, some native⟩) =>
    (.ok (.flag true),
      (s.setEngine number ⟨engine, native, none⟩).log uninstalledEvent)
  | _ => (.ok (.flag false), s)

/-- Whether an engine has a saved compile method. -/
def isPatched (s : Session Program) (name : String) : Bool :=
  match s.engine? name with
  | some (_, state) => state.saved.isSome
  | none => false

/-- Whether a cache has a matcher under a value; some values cannot be asked for. -/
def cacheHas (s : Session Program) (number : Nat) (source : Value) :
    Except Failure Bool :=
  match source with
  | .text text => .ok ((s.cacheAt number).find? text.toList).isSome
  | value =>
    match value.unhashable? with
    | some kind => .error (.unhashable kind)
    | none => .ok false

/-- Whether two texts have the same matcher in a cache. -/
def cacheSame (s : Session Program) (number : Nat) (first second : Text) :
    Except Failure Bool × Session Program :=
  match s.matcher number first with
  | (.error e, s) => (.error e, s)
  | (.ok _, s) =>
    match s.matcher number second with
    | (.error e, s) => (.error e, s)
    | (.ok _, s) => (.ok (first == second), s)

/-- The engine that a step chooses, with its number. -/
def chosen? (s : Session Program) :
    EngineChoice Program → Option (Option Nat × EngineState Program)
  | .named name => (s.engine? name).map fun found => (some found.1, found.2)
  | .fresh engine => some (none, .unpatched engine)

/-- Compiles with a marker set. -/
def compileTemplate (s : Session Program) (r : CompileRequest Program) :
    Except Failure (Compiled Program) × Session Program :=
  match guardOf r.guard with
  | .error e => (.error e, s)
  | .ok guard =>
    match MarkerSet.ofValue r.delimiters with
    | .error e => (.error e, s)
    | .ok markers =>
      match s.chosen? r.engine with
      | none => (.error (.engine .mustache), s)
      | some (number, state) =>
        s.compileTemplateWith number state markers (s.cacheNumber r.cache) guard r.path
          r.source

/-- Makes a template of segments. -/
def makeTemplate (s : Session Program) (r : TemplateRequest) :
    Except Failure (Compiled Program) × Session Program :=
  match guardOf r.guard with
  | .error e => (.error e, s)
  | .ok guard =>
    match s.engine? r.engine with
    | none => (.error (.engine .mustache), s)
    | some (number, state) =>
      let (answer, j) :=
        Template.create r.isLazy
          ⟨r.segments, guard, r.name, none, ⟨some number, state.engine⟩, none⟩
          s.journal
      (answer.map .template, { s with journal := j })

/-- Rewrites the tags of a text. -/
def rewrite (s : Session Program) (source : Text) (isEscaping : Bool) (text : Text)
    (cache : Option String) : Except Failure Answer × Session Program :=
  match s.matcher (s.cacheNumber cache) source with
  | (.error e, s) => (.error e, s)
  | (.ok matcher, s) => ((Retag.rewrite matcher isEscaping text).map .text, s)

/-- Performs a step. -/
def perform (s : Session Program) :
    Step Program → Except Failure Answer × Session Program
  | .makeEngine name e => (.ok .nothing, s.addEngine name e)
  | .makeCache name => (.ok .nothing, s.addCache name)
  | .cacheGet name source =>
    let (answer, s) := s.matcher (s.cacheNumber name) source
    (answer.map fun matcher => .text matcher.source, s)
  | .cacheSize name => (.ok (.number (s.cacheAt (s.cacheNumber (some name))).size), s)
  | .cacheHas name source =>
    ((s.cacheHas (s.cacheNumber (some name)) source).map .flag, s)
  | .cacheClear name => (.ok .nothing, s.setCache (s.cacheNumber (some name)) .empty)
  | .cacheSame name first second =>
    let (answer, s) := s.cacheSame (s.cacheNumber (some name)) first second
    (answer.map .flag, s)
  | .rewrite source isEscaping text cache => s.rewrite source isEscaping text cache
  | .install name delimiters cache => s.install name delimiters cache
  | .uninstall name => s.uninstall name
  | .isPatched name => (.ok (.flag (s.isPatched name)), s)
  | .compile name source path target =>
    match s.engine? name with
    | none => (.ok .nothing, s)
    | some (number, state) => keep target (s.compileWith number state path source)
  | .compileTemplate r target => keep target (s.compileTemplate r)
  | .makeTemplate r target => keep target (s.makeTemplate r)
  | .inspect target =>
    match s.templates.lookup target with
    | none => (.ok noTemplate, s)
    | some compiled => (.ok (.description compiled.description), s)
  | .render target r =>
    match s.templates.lookup target with
    | none => (.ok noTemplate, s)
    | some compiled =>
      let (answer, s) := s.render target compiled r
      (answer.map .text, s)

end Session

/-- What is reported about a step. -/
structure Report where
  answer : Except Failure Answer
  events : List Event
  /-- The compile calls of observed engines, ordered by the engines' names. -/
  calls : List CompileCall

namespace Session

variable {Program : Type}

/-- The compile calls of the engine with a name, if it is observed. -/
def callsOf (s : Session Program) (entry : String × Nat) : List CompileCall :=
  match s.engines[entry.2]? with
  | some state =>
    if state.engine.isObserved then
      s.journal.calls.filter fun call => call.engine == some entry.2
    else []
  | none => []

/-- The report about a step that ended with this session. -/
def report (s : Session Program) (answer : Except Failure Answer) : Report :=
  let names := s.engineNames.mergeSort fun a b => decide (a.1 ≤ b.1)
  ⟨answer, s.journal.events, names.flatMap s.callsOf⟩

/-- The session with an empty journal. -/
def quiet (s : Session Program) : Session Program :=
  { s with journal := s.journal.clear }

/-- Performs a step with an empty journal and reports about it. -/
def advance (s : Session Program) (step : Step Program) : Report × Session Program :=
  let (answer, after) := s.quiet.perform step
  (after.report answer, after)

/-- Performs steps in order and reports about each. -/
def run : List (Step Program) → Session Program → List Report
  | [], _ => []
  | step :: rest, s => (s.advance step).1 :: run rest (s.advance step).2

end Session

end Retag

import Retag.Compile
import Retag.Marker.OfValue

/-!
# Sessions

A session holds engines, matcher caches and compiled templates under names of
the user's choice, and a journal. An engine may be patched with a marker set and
a cache: its compile then reads templates that are written with these markers.

An engine has a compile method, which a patch replaces by one of its own. The
first patch saves the method it replaces. Every patch keeps the saved method,
for the values that it does not read; but where it reads a template, it asks the
engine anew for the method that templates are compiled with, which is the saved
one if there is one.

Engines and caches are numbered in the order in which they were made, and a name
stands for a number: a name may be given to a new engine or cache while others
still refer to the old one. Cache number zero is the default one; names that
stand for no cache stand for it.
-/

namespace Retag

open Log

/-- What a patched engine reads templates with. -/
structure Patch where
  markers : MarkerSet
  cache : Nat

/-- What an engine does when it is asked to compile. -/
inductive CompileMethod where
  | own
  /-- It reads texts with a patch, and leaves other values to a method that it
  had before. -/
  | patched (patch : Patch) (native : CompileMethod)

/-- An engine of a session. -/
structure EngineState (Program : Type) where
  engine : Engine Program
  method : CompileMethod
  /-- The compile method that was saved when the engine was patched. -/
  saved : Option CompileMethod

namespace EngineState

variable {Program : Type}

/-- An engine that was never patched. -/
def unpatched (e : Engine Program) : EngineState Program := ⟨e, .own, none⟩

/-- The method that templates are compiled with. -/
def nativeMethod (state : EngineState Program) : CompileMethod :=
  state.saved.getD state.method

/-- The engine with a patch. The method that is saved already stays saved. -/
def patchWith (state : EngineState Program) (patch : Patch) : EngineState Program :=
  ⟨state.engine, .patched patch state.nativeMethod, some state.nativeMethod⟩

end EngineState

/-- The failure of a method that asks itself without end. -/
def endless : Failure := .engine (.probe "maximum recursion depth exceeded")

/-- A session. -/
structure Session (Program : Type) where
  journal : Journal
  caches : List MatcherCache
  cacheNames : List (String × Nat)
  engines : List (EngineState Program)
  engineNames : List (String × Nat)
  templates : List (String × Compiled Program)

namespace Session

variable {Program : Type}

/-- A session that begins. -/
def empty : Session Program := ⟨.empty, [.empty], [], [], [], []⟩

/-- The name of the default cache. -/
def defaultCacheName : String := "default"

/-- The number of the cache that a name stands for. -/
def cacheNumber (s : Session Program) : Option String → Nat
  | none => 0
  | some name =>
    if name == defaultCacheName then 0 else (s.cacheNames.lookup name).getD 0

/-- The cache with a number. -/
def cacheAt (s : Session Program) (number : Nat) : MatcherCache :=
  s.caches.getD number .empty

/-- Replaces a cache. -/
def setCache (s : Session Program) (number : Nat) (c : MatcherCache) :
    Session Program :=
  { s with caches := s.caches.set number c }

/-- Adds a cache under a name. -/
def addCache (s : Session Program) (name : String) : Session Program :=
  { s with
    caches := s.caches ++ [.empty]
    cacheNames := putEntry name s.caches.length s.cacheNames }

/-- Adds an engine under a name. -/
def addEngine (s : Session Program) (name : String) (e : Engine Program) :
    Session Program :=
  { s with
    engines := s.engines ++ [.unpatched e]
    engineNames := putEntry name s.engines.length s.engineNames }

/-- The number and the state of the engine with a name. -/
def engine? (s : Session Program) (name : String) :
    Option (Nat × EngineState Program) := do
  let number ← s.engineNames.lookup name
  let state ← s.engines[number]?
  return (number, state)

/-- Replaces an engine. -/
def setEngine (s : Session Program) (number : Nat) (state : EngineState Program) :
    Session Program :=
  { s with engines := s.engines.set number state }

/-- Logs an event. -/
def log (s : Session Program) (e : Event) : Session Program :=
  { s with journal := s.journal.log e }

/-- Puts what was compiled under a name. -/
def bind (s : Session Program) (name : String) (compiled : Compiled Program) :
    Session Program :=
  { s with templates := putEntry name compiled s.templates }

/-- The matcher of a text from a cache. -/
def matcher (s : Session Program) (number : Nat) (source : Text) :
    Except Failure Regex × Session Program :=
  let (answer, c, j) := (s.cacheAt number).get source s.journal
  (answer, { s.setCache number c with journal := j })

/-- Compiles a source with a marker set. -/
def compile (s : Session Program) (e : NumberedEngine Program) (markers : MarkerSet)
    (cache : Nat) (guard : Guard) (path : Option String) (source : Value) :
    Except Failure (Compiled Program) × Session Program :=
  let ((answer, c), j) :=
    Retag.compile e markers guard path source (s.cacheAt cache) s.journal
  (answer, { s.setCache cache c with journal := j })

/-- Compiles a source with an engine's own compile. -/
def compileNative (s : Session Program) (e : NumberedEngine Program)
    (path : Option String)
    (source : Value) : Except Failure (Compiled Program) × Session Program :=
  let (answer, j) := Retag.compileNative e source path s.journal
  (answer, { s with journal := j })

/-- Compiles a source with a marker set and the method of an engine that
templates are compiled with. The method must be the engine's own: one that reads
templates would end up here again. -/
def compileTemplateWith (s : Session Program) (number : Option Nat)
    (state : EngineState Program) (markers : MarkerSet) (cache : Nat) (guard : Guard)
    (path : Option String) (source : Value) :
    Except Failure (Compiled Program) × Session Program :=
  match state.nativeMethod with
  | .own => s.compile ⟨number, state.engine⟩ markers cache guard path source
  | .patched .. => (.error endless, s)

/-- Compiles a source with a method of an engine. A patch reads texts only. -/
def compileBy (s : Session Program) (number : Nat) (state : EngineState Program)
    (path : Option String) (source : Value) :
    CompileMethod → Except Failure (Compiled Program) × Session Program
  | .own => s.compileNative ⟨some number, state.engine⟩ path source
  | .patched patch native =>
    match source with
    | .text _ =>
      s.compileTemplateWith (some number) state patch.markers patch.cache .default path
        source
    | _ => s.compileBy number state path source native

/-- Compiles a source with an engine's compile, patched or not. -/
def compileWith (s : Session Program) (number : Nat) (state : EngineState Program)
    (path : Option String) (source : Value) :
    Except Failure (Compiled Program) × Session Program :=
  s.compileBy number state path source state.method

end Session

end Retag

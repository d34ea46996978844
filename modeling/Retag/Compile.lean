import Retag.Template
import Retag.Cache

/-!
# Compiling templates

A template that is written with a marker set is compiled by its segments, unless
the markers are the engine's own: then the engine gets the text as it is, and
its program is the result.
-/

namespace Retag

open Log

/-- What compiling gives. -/
inductive Compiled (Program : Type) where
  | native (engine : Engine Program) (program : Program)
  | template (t : Template Program)

/-- The event of a template that was taken apart. -/
def scannedEvent (markers : MarkerSet) (segments : List Segment) : Event :=
  ⟨.debug, "Template scanned",
    [("two_tier", .bool markers.isTwoTier), ("segments", .int segments.length),
      ("tags", .int (segments.countP Segment.isTag))]⟩

variable {Program : Type}

/-- Lets the engine compile a source as it is. -/
def compileNative (e : NumberedEngine Program) (source : Value) (path : Option String)
    (j : Journal) : Except Failure (Compiled Program) × Journal :=
  let (answer, after) := e.compile source path j
  ((orFail .engine answer).map (.native e.engine), after)

/-- The template of some segments. It is lazy if the marker set has two pairs. -/
def templateOf (e : NumberedEngine Program) (markers : MarkerSet) (guard : Guard)
    (path : Option String) (segments : List Segment) (j : Journal) :
    Except Failure (Template Program) × Journal :=
  Template.create markers.isTwoTier ⟨segments, guard, path, path, e, none⟩
    (j.log (scannedEvent markers segments))

/-- Takes a source apart and makes a template of it. -/
def compileSegments (e : NumberedEngine Program) (markers : MarkerSet) (guard : Guard)
    (path : Option String) (source : Value) (cache : MatcherCache) (j : Journal) :
    (Except Failure (Template Program) × MatcherCache) × Journal :=
  match cache.matchers markers j with
  | (.error e, cache, j) => ((.error e, cache), j)
  | (.ok matchers, cache, j) =>
    match matchers.segmentsOf source with
    | .error e => ((.error e, cache), j)
    | .ok segments =>
      let (template, j) := templateOf e markers guard path segments j
      ((template, cache), j)

/-- Compiles a source that is written with a marker set. -/
def compile (e : NumberedEngine Program) (markers : MarkerSet) (guard : Guard)
    (path : Option String) (source : Value) (cache : MatcherCache) (j : Journal) :
    (Except Failure (Compiled Program) × MatcherCache) × Journal :=
  if markers.isNative then
    let (answer, j) := compileNative e source path j
    ((answer, cache), j)
  else
    let ((answer, cache), j) :=
      j.inScope path (compileSegments e markers guard path source cache)
    ((answer.map .template, cache), j)

end Retag

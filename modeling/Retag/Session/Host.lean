import Retag.Session.Step
import Retag.Log.Threshold

/-!
# Logging for a host

A host chooses the least level that is written, emits events of its own while
the name of a template is in scope, and compiles templates. `hostEvents` lists
the events that are written.
-/

namespace Retag

open Log

/-- A request of a host to compile a source. -/
structure HostCompile where
  source : Value
  delimiters : Value
  path : Option String

/-- What a host does. -/
structure HostRun where
  /-- The name of the least level that is written. -/
  threshold : Option String
  /-- The name of the template in scope. -/
  scope : Option String
  emitted : List Event
  compiled : List HostCompile

variable {Program : Type}

/-- Compiles sources one after the other, with one cache, until one fails. -/
def compileAll (e : Engine Program) :
    List HostCompile → MatcherCache → Journal → Except Failure Unit × Journal
  | [], _, j => (.ok (), j)
  | r :: rest, cache, j =>
    match MarkerSet.ofValue r.delimiters with
    | .error fault => (.error fault, j)
    | .ok markers =>
      match compile ⟨none, e⟩ markers .default r.path r.source cache j with
      | ((.error fault, _), j) => (.error fault, j)
      | ((.ok _, cache), j) => compileAll e rest cache j

/-- The events that are written while a host runs. -/
def hostEvents (e : Engine Program) (r : HostRun) : Except Failure (List Event) := do
  let threshold ← thresholdOf (r.threshold.getD defaultThreshold)
  let (answer, j) := Journal.empty.inScope r.scope fun j =>
    compileAll e r.compiled .empty (r.emitted.foldl Journal.log j)
  answer
  return written threshold j.events

end Retag

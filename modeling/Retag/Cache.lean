import Retag.Rewrite
import Retag.Log.Journal

/-!
# The cache of matchers

Matchers are kept by the text of their expression, in the order in which they
were first asked for. A text that is no expression is not kept. Each matcher
that is added is logged with the size of the cache afterwards.

Requests follow each other, so the cache has no lock.
-/

namespace Retag

open Log

/-- A cache of matchers. -/
structure MatcherCache where
  /-- The matchers by the text of their expression. -/
  entries : List (Text × Regex)

/-- The event of a matcher that was added. -/
def matcherEvent (source : Text) (size : Nat) : Event :=
  ⟨.debug, "Matcher compiled",
    [("source", .text (String.ofList source)), ("cache_size", .int size)]⟩

namespace MatcherCache

/-- A cache without matchers. -/
def empty : MatcherCache := ⟨[]⟩

/-- The matcher of a text, if it is kept. -/
def find? (c : MatcherCache) (source : Text) : Option Regex := c.entries.lookup source

/-- The number of matchers. -/
def size (c : MatcherCache) : Nat := c.entries.length

/-- The texts of the expressions, in the order of insertion. -/
def sources (c : MatcherCache) : List Text := c.entries.map (·.1)

/-- Keeps a matcher. -/
def insert (c : MatcherCache) (source : Text) (matcher : Regex) : MatcherCache :=
  ⟨c.entries ++ [(source, matcher)]⟩

/-- The matcher of a text, compiled if it is not kept. -/
def get (c : MatcherCache) (source : Text) (j : Journal) :
    Except Failure Regex × MatcherCache × Journal :=
  match c.find? source with
  | some matcher => (.ok matcher, c, j)
  | none =>
    match matcherOf source with
    | .error e => (.error e, c, j)
    | .ok matcher =>
      let after := c.insert source matcher
      (.ok matcher, after, j.log (matcherEvent source after.size))

@[simp] theorem sources_empty : empty.sources = [] := rfl

@[simp] theorem sources_insert (c : MatcherCache) (source : Text) (matcher : Regex) :
    (c.insert source matcher).sources = c.sources ++ [source] := by
  simp [sources, insert]

@[simp] theorem length_sources (c : MatcherCache) : c.sources.length = c.size := by
  simp [sources, size]

end MatcherCache

/-- The matchers of a marker set. -/
structure Matchers where
  escaped : Regex
  safe : Option Regex

/-- The matchers of a marker set, that of escaped tags first. -/
def MatcherCache.matchers (c : MatcherCache) (markers : MarkerSet) (j : Journal) :
    Except Failure Matchers × MatcherCache × Journal :=
  match c.get markers.escaped.source j with
  | (.error e, c, j) => (.error e, c, j)
  | (.ok escaped, c, j) =>
    match markers.safe with
    | none => (.ok ⟨escaped, none⟩, c, j)
    | some pair =>
      match c.get pair.source j with
      | (.error e, c, j) => (.error e, c, j)
      | (.ok safe, c, j) => (.ok ⟨escaped, some safe⟩, c, j)

/-- The segments of a text. -/
def Matchers.segments (m : Matchers) (text : Text) : Except Failure (List Segment) :=
  orFail .ofScan
    (match m.safe with
      | none => scan m.escaped .escaped text
      | some safe => recompose safe m.escaped text)

/-- The segments of a template, which must be a text. -/
def Matchers.segmentsOf (m : Matchers) : Value → Except Failure (List Segment)
  | .text s => m.segments s.toList
  | .bytes _ => .error .bytesText
  | value => .error (.notText value.longKind)

end Retag

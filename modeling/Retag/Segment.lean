import Retag.Regex.Match
import Retag.Marker.Fragment

/-!
# Segments

A template is a sequence of segments: literal text and tags. `scan` takes a text
apart with one expression; `recompose` takes it apart with the expression for
safe tags first, and then every literal piece with the expression for escaped
tags, so that a safe tag is never cut at a marker inside it.

A tag's content is the first group of the match, kept as it is. The group may
have taken no part in the match; such a tag has no content and cannot be written.
-/

namespace Retag

/-- How the output of a tag is written. -/
inductive Variant where
  | escaped
  | safe
  deriving DecidableEq, Repr

/-- A piece of a template. -/
inductive Segment where
  | literal (text : Text)
  | tag (inner : Option Text) (variant : Variant)
  deriving DecidableEq, Repr

namespace Segment

/-- Whether the segment is a tag. -/
def isTag : Segment → Bool
  | .literal _ => false
  | .tag .. => true

/-- A content between the engine's own markers. -/
def wrap (variant : Variant) (inner : Text) : Text :=
  match variant with
  | .escaped => MarkerSet.nativeOpening ++ inner ++ MarkerSet.nativeClosing
  | .safe => MarkerSet.nativeSafeOpening ++ inner ++ MarkerSet.nativeSafeClosing

end Segment

/-- The matched expression has no group for the content. -/
inductive ScanFault where
  | noGroup
  deriving DecidableEq, Repr

/-- A literal segment, unless the text is empty. -/
def literalUnlessEmpty (text : Text) : List Segment :=
  if text.isEmpty then [] else [.literal text]

open Text in
/-- The segments from a cursor on, given the matches behind it. -/
def segmentsFrom (variant : Variant) : Cursor → List Regex.Match → List Segment
  | c, [] => literalUnlessEmpty c.rest
  | c, m :: more =>
    literalUnlessEmpty (c.upTo m.start) ++ .tag (m.group? 1) variant
      :: segmentsFrom variant m.stop more

/-- Takes a text apart. Without a tag the whole text is one literal segment,
even when it is empty. -/
def scan (matcher : Regex) (variant : Variant) (text : Text) :
    Except ScanFault (List Segment) :=
  match matcher.matchesIn text with
  | [] => .ok [.literal text]
  | found =>
    if matcher.groupCount == 0 then .error .noGroup
    else .ok (segmentsFrom variant (.first text) found)

/-- Takes the literal pieces of a list of segments apart and keeps the tags. -/
def refine (matcher : Regex) : List Segment → Except ScanFault (List Segment)
  | [] => .ok []
  | .tag inner variant :: rest => do
    return .tag inner variant :: (← refine matcher rest)
  | .literal text :: rest => do
    let pieces ← scan matcher .escaped text
    return pieces ++ (← refine matcher rest)

/-- Takes a text apart with two expressions, the one for safe tags first. -/
def recompose (safe escaped : Regex) (text : Text) : Except ScanFault (List Segment) :=
  do
  refine escaped (← scan safe .safe text)

/-- A tag without content cannot be written. -/
inductive WriteFault where
  | absentInner
  deriving DecidableEq, Repr

namespace Segment

/-- A segment as native text; `literal` says how literal text is written, and
`mark` stands before every tag. -/
def write (literal : Text → Text) (mark : Text) : Segment → Except WriteFault Text
  | .literal text => .ok (literal text)
  | .tag (some inner) variant => .ok (mark ++ wrap variant inner)
  | .tag none _ => .error .absentInner

/-- Segments as native text, one after the other. -/
def writeAll (literal : Text → Text) (mark : Text) :
    List Segment → Except WriteFault Text
  | [] => .ok []
  | s :: rest => do
    let text ← s.write literal mark
    return text ++ (← writeAll literal mark rest)

end Segment

/-- What stands before a native tag that is to be read as plain text. -/
def escapeMark : Text := ['\\']

end Retag

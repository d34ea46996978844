import Retag.Text.Basic
import Retag.Text.Quoted

/-!
# Markers

A tag is written between an opening and a closing marker. A marker is a plain
text or an expression, and a marker set has one pair of markers, whose tags are
written escaped, and possibly a second pair for tags that are written as they are.

The two pairs of a set never share an opening or a closing marker; the type says
so, and `MarkerSet.make` is the way to build one.
-/

namespace Retag

open Text

/-- One marker. -/
inductive Marker where
  | literal (text : Text)
  /-- An expression, with the flags it was made with; they are kept for
  reference only. -/
  | expression (source : Text) (flags : Int)
  deriving DecidableEq, Repr, Inhabited

namespace Marker

/-- A marker as it is shown in messages. -/
def shown : Marker → String
  | .literal text => "LiteralToken(text=" ++ String.ofList (quotedChars text) ++ ")"
  | .expression source flags =>
    "PatternToken(source=" ++ String.ofList (quotedChars source) ++ ", flags="
      ++ toString flags ++ ")"

end Marker

/-- The two markers of a tag. -/
structure MarkerPair where
  opening : Marker
  closing : Marker
  deriving DecidableEq, Repr

/-- Why markers do not form a set. -/
inductive MarkerFault where
  | emptyMarker
  /-- A marker is an expression on bytes. -/
  | bytesMarker (source : List UInt8)
  /-- A value of another kind stands for a marker. -/
  | notMarker (kind : String)
  /-- There are neither two nor four markers. -/
  | wrongCount
  /-- One of the two markers for safe tags is missing. -/
  | unpaired
  /-- The opening marker for safe tags is that for escaped tags. -/
  | sameOpening (marker : Marker)
  /-- The closing marker for safe tags is that for escaped tags. -/
  | sameClosing (marker : Marker)
  deriving DecidableEq, Repr

/-- The wording of a fault. -/
def MarkerFault.message : MarkerFault → String
  | .emptyMarker => "Delimiter markers must not be empty strings"
  | .bytesMarker source =>
    "Delimiter patterns must be text patterns, got bytes: " ++ quotedBytes source
  | .notMarker kind => "Delimiter must be a string or compiled pattern, got " ++ kind
  | .wrongCount =>
    "Delimiters must be a list of 2 (open, close) or 4 "
      ++ "(open, close, open_safe, close_safe) markers"
  | .unpaired => "open_safe and close_safe must be configured together"
  | .sameOpening marker =>
    "Safe open marker " ++ marker.shown ++ " is identical to the escaped open marker"
  | .sameClosing marker =>
    "Safe close marker " ++ marker.shown ++ " is identical to the escaped close marker"

/-- The markers of one configuration. -/
structure MarkerSet where
  /-- The markers of tags whose output is escaped. -/
  escaped : MarkerPair
  /-- The markers of tags whose output is written as it is. -/
  safe : Option MarkerPair
  apart : ∀ pair, safe = some pair →
    pair.opening ≠ escaped.opening ∧ pair.closing ≠ escaped.closing
  deriving DecidableEq

namespace MarkerSet

/-- A set with one pair of markers. -/
def single (escaped : MarkerPair) : MarkerSet := ⟨escaped, none, by simp⟩

/-- A set with two pairs of markers. -/
def double (escaped safe : MarkerPair) : Except MarkerFault MarkerSet :=
  if hOpening : safe.opening = escaped.opening then .error (.sameOpening safe.opening)
  else if hClosing : safe.closing = escaped.closing then
    .error (.sameClosing safe.closing)
  else .ok ⟨escaped, some safe, by
    rintro pair hPair
    cases hPair
    exact ⟨hOpening, hClosing⟩⟩

/-- A set from its markers; those for safe tags come together or not at all. -/
def make (opening closing : Marker) (openSafe closeSafe : Option Marker) :
    Except MarkerFault MarkerSet :=
  match openSafe, closeSafe with
  | none, none => .ok (single ⟨opening, closing⟩)
  | some openSafe, some closeSafe =>
    double ⟨opening, closing⟩ ⟨openSafe, closeSafe⟩
  | _, _ => .error .unpaired

/-- A set from a list of two or four markers. -/
def ofList : List Marker → Except MarkerFault MarkerSet
  | [opening, closing] => make opening closing none none
  | [opening, closing, openSafe, closeSafe] =>
    make opening closing (some openSafe) (some closeSafe)
  | _ => .error .wrongCount

/-- Whether the set has a second pair. -/
def isTwoTier (s : MarkerSet) : Bool := s.safe.isSome

/-- The opening marker of the engine's own tags. -/
def nativeOpening : Text := ['{', '{']

/-- The closing marker of the engine's own tags. -/
def nativeClosing : Text := ['}', '}']

/-- The opening marker of the engine's own safe tags. -/
def nativeSafeOpening : Text := ['{', '{', '{']

/-- The closing marker of the engine's own safe tags. -/
def nativeSafeClosing : Text := ['}', '}', '}']

/-- The engine's own markers for escaped tags. -/
def nativePair : MarkerPair := ⟨.literal nativeOpening, .literal nativeClosing⟩

/-- The engine's own markers for safe tags. -/
def nativeSafePair : MarkerPair :=
  ⟨.literal nativeSafeOpening, .literal nativeSafeClosing⟩

/-- The engine's own markers, without those for safe tags. -/
def native : MarkerSet := single nativePair

/-- Whether the markers are the engine's own, so that nothing has to be rewritten. -/
def isNative (s : MarkerSet) : Bool :=
  s.escaped == nativePair && (s.safe == none || s.safe == some nativeSafePair)

end MarkerSet

end Retag

import Retag.Marker.Basic

/-!
# Marker fragments

The expression that finds the tags of a marker pair is the opening marker's
fragment, a group that takes the content, and the closing marker's fragment.

* The fragment of a plain text is the text with a backslash before every
  character that means something in an expression.
* The fragment of an expression is its text without the anchors at its two ends,
  which would be meaningless inside a larger expression. A dollar sign that an
  odd run of backslashes precedes is no anchor.
* A plain opening marker that does not end in an equals sign must not be
  followed by one, so that the tags of a longer marker are left alone.
-/

namespace Retag

/-- Whether a character means something in an expression. -/
def isMeta (c : Char) : Bool :=
  c == '.' || c == '*' || c == '+' || c == '?' || c == '^' || c == '$' || c == '\x7b'
    || c == '\x7d' || c == '(' || c == ')' || c == '|' || c == '[' || c == ']'
    || c == '\\'

/-- One character of a plain text in an expression. -/
def escapeChar (c : Char) : Text := if isMeta c then ['\\', c] else [c]

/-- A plain text in an expression. -/
def escapeLiteral (text : Text) : Text := text.flatMap escapeChar

@[simp] theorem escapeLiteral_nil : escapeLiteral [] = [] := rfl

@[simp] theorem escapeLiteral_cons (c : Char) (text : Text) :
    escapeLiteral (c :: text) = escapeChar c ++ escapeLiteral text := by
  simp [escapeLiteral]

@[simp] theorem escapeLiteral_append (a b : Text) :
    escapeLiteral (a ++ b) = escapeLiteral a ++ escapeLiteral b := by
  simp [escapeLiteral]

/-- The text without one caret at its start. -/
def dropCaret : Text → Text
  | '^' :: rest => rest
  | text => text

/-- The number of backslashes at the end of a text. -/
def trailingBackslashes (text : Text) : Nat :=
  (text.reverse.takeWhile (· == '\\')).length

/-- The text without one dollar sign at its end, unless backslashes escape it. -/
def dropDollar (text : Text) : Text :=
  match text.reverse with
  | '$' :: reversed =>
    let body := reversed.reverse
    if trailingBackslashes body % 2 == 0 then body else text
  | _ => text

/-- The text of an expression without the anchors at its ends. -/
def stripAnchors (source : Text) : Text := dropDollar (dropCaret source)

/-- A marker as a part of an expression. -/
structure Fragment where
  text : Text
  /-- Whether the marker is an expression itself. -/
  isExpression : Bool
  deriving DecidableEq, Repr

/-- What follows a plain opening marker: no equals sign. -/
def notEquals : Text := ['(', '?', '!', '=', ')']

/-- The group for the content of a tag: at least one character, and as few as
possible. -/
def contentGroup : Text := ['(', '[', '\\', 's', '\\', 'S', ']', '+', '?', ')']

/-- Whether a text ends in an equals sign. -/
def endsInEquals (text : Text) : Bool := text.getLast? == some '='

namespace Marker

/-- The fragment of a closing marker. -/
def fragment : Marker → Fragment
  | .literal text => ⟨escapeLiteral text, false⟩
  | .expression source _ => ⟨stripAnchors source, true⟩

/-- The fragment of an opening marker. -/
def openingFragment (m : Marker) : Fragment :=
  match m with
  | .literal _ =>
    if endsInEquals m.fragment.text then m.fragment
    else ⟨m.fragment.text ++ notEquals, false⟩
  | .expression .. => m.fragment

end Marker

/-- The expression that finds the tags between two markers; its first group is
the content. -/
def MarkerPair.source (pair : MarkerPair) : Text :=
  pair.opening.openingFragment.text ++ contentGroup ++ pair.closing.fragment.text

/-- The expression that finds the engine's own tags, whatever character the
content starts with. -/
def nativeTagSource : Text :=
  escapeLiteral MarkerSet.nativeOpening ++ contentGroup
    ++ escapeLiteral MarkerSet.nativeClosing

end Retag

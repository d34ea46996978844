import Retag.Failure

/-!
# Rewriting into native tags

One scan with one expression, whose tags are written as native tags. Literal
text is copied. With `isEscaping`, a backslash stands before every tag, so that
the engine takes it for plain text; done with the expression for native tags
this neutralises the tags that a text already has.
-/

namespace Retag

/-- What stands before a rewritten tag. -/
def markBefore (isEscaping : Bool) : Text := if isEscaping then escapeMark else []

/-- Rewrites the tags of a text. -/
def rewrite (matcher : Regex) (isEscaping : Bool) (text : Text) : Except Failure Text :=
  do
  let segments ← orFail .ofScan (scan matcher .escaped text)
  orFail .ofWrite (Segment.writeAll id (markBefore isEscaping) segments)

/-- The expression of a text, without flags. -/
def matcherOf (source : Text) : Except Failure Regex :=
  orFail .expression (Regex.compile source 0)

/-- Rewrites the tags that the expression of a text finds. -/
def rewriteBy (source : Text) (isEscaping : Bool) (text : Text) : Except Failure Text :=
  do
  rewrite (← matcherOf source) isEscaping text

end Retag

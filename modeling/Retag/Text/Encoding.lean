import Retag.Text.Basic

/-!
# Files as text

The text of a file: its bytes decoded as UTF-8, with one line feed for each of
the three ways to end a line.
-/

namespace Retag.Text

/-- A text in which a carriage return, alone or before a line feed, has become a
line feed. -/
def unifyLineEnds : Text → Text
  | '\r' :: '\n' :: rest => '\n' :: unifyLineEnds rest
  | '\r' :: rest => '\n' :: unifyLineEnds rest
  | c :: rest => c :: unifyLineEnds rest
  | [] => []

/-- The text that bytes encode, if they encode one. -/
def decode (bytes : List UInt8) : Option Text :=
  (String.fromUTF8? ⟨bytes.toArray⟩).map String.toList

end Retag.Text

import Retag.Failure
import Retag.Value.Printed
import Retag.Text.LetterCase

/-!
# Helpers

A helper is a function that a template calls by name. Those that a render call
may bring along are kept here: one raises letters, one joins its arguments, one
gives a fixed text full of braces, and one makes its block bold.
-/

namespace Retag.Mustache

/-- A helper. -/
inductive Helper where
  | upper
  /-- Joins the texts of its arguments with plus signs. -/
  | join
  /-- Gives a text with braces and a backslash. -/
  | brace
  | bold
  deriving DecidableEq, Repr

/-- The helper with a name. -/
def Helper.ofName? : String → Option Helper
  | "upper" => some .upper
  | "join" => some .join
  | "brace" => some .brace
  | "bold" => some .bold
  | _ => none

/-- What a helper answers to arguments. -/
def Helper.apply : Helper → List Value → Except Failure Value
  | .upper, [argument] => .ok (.text (Text.upper argument.plain))
  | .join, arguments => .ok (.text ("+".intercalate (arguments.map Value.plain)))
  | .brace, _ => .ok (.text "\x7bx\x7d\\")
  | _, _ => .error (.engine .mustache)

/-- What a helper makes of the text of a block. -/
def Helper.applyBlock : Helper → Text → Except Failure Text
  | .bold, body => .ok ("<b>".toList ++ body ++ "</b>".toList)
  | _, _ => .error (.engine .mustache)

end Retag.Mustache

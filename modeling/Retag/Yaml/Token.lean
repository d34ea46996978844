import Retag.Text.Basic
import Retag.Value.Moment

/-!
# Tokens of a YAML text

The tokens that a YAML text consists of, and what can be wrong with a text. Of a
text that is not YAML only the fact is told; the other faults stand for texts
that are YAML but hold a scalar which denotes nothing, or a value that has no text.
-/

namespace Retag.Yaml

/-- What can be wrong with a YAML text. -/
inductive Fault where
  /-- The text is not YAML, or not a document that is understood. -/
  | malformed
  /-- An escape names a code point that does not exist. -/
  | noCodePoint
  /-- An escape names a number that is too large for a code point. -/
  | hugeCodePoint
  /-- A date or time that does not exist. -/
  | calendar (fault : CalendarFault)
  | notInteger (base : Nat) (text : String)
  /-- An integer with more digits than are read. -/
  | integerTooLong (digits : Nat)
  /-- An integer with more digits than are printed. -/
  | unprintable
  /-- A value that nests deeper than can be printed. -/
  | tooDeep
  /-- A scalar that is no floating-point number. -/
  | notFloat (text : String)
  /-- An empty scalar where a number should be. -/
  | emptyNumber
  /-- A scalar that is no truth value. -/
  | notBool (text : String)
  | notTimestamp
  deriving DecidableEq, Repr

/-- The tag of a node as written: the handle, if there is one, and what follows. -/
structure WrittenTag where
  handle : Option Text
  suffix : Text
  deriving DecidableEq, Repr

/-- A token. -/
inductive Token where
  | versionDirective (major : Nat)
  /-- A directive that gives a tag handle a meaning. -/
  | tagDirective (handle start : Text)
  | otherDirective
  | documentStart
  | documentEnd
  | streamEnd
  | blockSequenceStart
  | blockMappingStart
  /-- A sequence or mapping of lines ends. -/
  | blockEnd
  | flowSequenceStart
  | flowSequenceEnd
  | flowMappingStart
  | flowMappingEnd
  | flowEntry
  | blockEntry
  | key
  | value
  | alias (name : Text)
  | anchor (name : Text)
  | tag (tag : WrittenTag)
  /-- A scalar; it is plain if it was written without quotes. -/
  | scalar (text : Text) (plain : Bool)
  deriving DecidableEq, Repr

end Retag.Yaml

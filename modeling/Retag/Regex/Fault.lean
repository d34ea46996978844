import Retag.Text.Basic
import Retag.Text.Quoted

/-!
# Why an expression is refused

`Fault` lists what can be wrong with the text of an expression, `Fault.message`
words it, and `SyntaxError` adds the place. A place is shown by its index, and
in a text of several lines also by line and column.

`CompileError` adds the refusals that are no matter of syntax: flags that
exclude each other, and numbers or depths beyond the limits.
-/

namespace Retag.Regex

open Retag.Text

/-- What can be wrong with the text of an expression. -/
inductive Fault where
  /-- The text ends in a lone backslash. -/
  | escapeAtEnd
  | badEscape (written : Text)
  | incompleteEscape (written : Text)
  | octalTooLarge (written : Text)
  | missingBrace
  /-- A named character that does not exist. -/
  | unknownCharacterName (name : Text)
  /-- A reference to a group that is still open. -/
  | openGroup
  /-- A reference from a look-behind to a group of the same look-behind. -/
  | groupInLookBehind
  /-- A reference to a group that does not exist. -/
  | invalidGroup (index : Nat)
  | missingName (what : String)
  | unterminatedName (terminator : Char)
  | badGroupName (name : Text)
  | unknownGroupName (name : Text)
  /-- A name that a group already has. -/
  | redefinedGroup (name : Text) (index earlier : Nat)
  | badGroupNumber
  | tooManyBranches
  | unterminatedSet
  /-- A range with a set at one end, or with its ends in the wrong order. -/
  | badRange (low high : Text)
  /-- A repetition with its limits in the wrong order. -/
  | minExceedsMax
  | nothingToRepeat
  | multipleRepeat
  /-- The text ends inside a group's opening. -/
  | unexpectedEnd
  | unknownExtension (written : Text)
  | unterminatedComment
  | unterminatedGroup
  /-- Flags for the whole expression in its middle. -/
  | misplacedFlags
  /-- The locale flag, which is not for text. -/
  | inlineLocale
  /-- The Unicode flag, which is not for bytes. -/
  | inlineUnicode
  | incompatibleFlags
  /-- A flag for the alphabet is turned off. -/
  | alphabetOff
  /-- A flag for whole expressions is turned on in a group. -/
  | wholeFlagOn
  /-- A flag for whole expressions is turned off in a group. -/
  | wholeFlagOff
  /-- A flag is turned on and off. -/
  | onAndOff
  | unknownFlag
  /-- Something else where a flag should stand, or one of the characters after flags. -/
  | missingAfterFlags (expected : String)
  | unbalanced
  | varyingLookBehind
  | farLookBehind
  | templateRepeat (operator : String)
  deriving DecidableEq, Repr

/-- The wording of a fault. -/
def Fault.message : Fault → String
  | .escapeAtEnd => "bad escape (end of pattern)"
  | .badEscape written => "bad escape " ++ String.ofList written
  | .incompleteEscape written => "incomplete escape " ++ String.ofList written
  | .octalTooLarge written =>
    "octal escape value " ++ String.ofList written ++ " outside of range 0-0o377"
  | .missingBrace => "missing \x7b"
  | .unknownCharacterName name =>
    "undefined character name " ++ String.ofList (quotedChars name)
  | .openGroup => "cannot refer to an open group"
  | .groupInLookBehind =>
    "cannot refer to group defined in the same lookbehind subpattern"
  | .invalidGroup index => "invalid group reference " ++ toString index
  | .missingName what => "missing " ++ what
  | .unterminatedName terminator =>
    "missing " ++ String.singleton terminator ++ ", unterminated name"
  | .badGroupName name =>
    "bad character in group name " ++ String.ofList (quotedChars name)
  | .unknownGroupName name => "unknown group name " ++ String.ofList (quotedChars name)
  | .redefinedGroup name index earlier =>
    "redefinition of group name " ++ String.ofList (quotedChars name) ++ " as group "
      ++ toString index ++ "; was group " ++ toString earlier
  | .badGroupNumber => "bad group number"
  | .tooManyBranches => "conditional backref with more than two branches"
  | .unterminatedSet => "unterminated character set"
  | .badRange low high =>
    "bad character range " ++ String.ofList low ++ "-" ++ String.ofList high
  | .minExceedsMax => "min repeat greater than max repeat"
  | .nothingToRepeat => "nothing to repeat"
  | .multipleRepeat => "multiple repeat"
  | .unexpectedEnd => "unexpected end of pattern"
  | .unknownExtension written => "unknown extension ?" ++ String.ofList written
  | .unterminatedComment => "missing ), unterminated comment"
  | .unterminatedGroup => "missing ), unterminated subpattern"
  | .misplacedFlags => "global flags not at the start of the expression"
  | .inlineLocale => "bad inline flags: cannot use 'L' flag with a str pattern"
  | .inlineUnicode => "bad inline flags: cannot use 'u' flag with a bytes pattern"
  | .incompatibleFlags => "bad inline flags: flags 'a', 'u' and 'L' are incompatible"
  | .alphabetOff => "bad inline flags: cannot turn off flags 'a', 'u' and 'L'"
  | .wholeFlagOn => "bad inline flags: cannot turn on global flag"
  | .wholeFlagOff => "bad inline flags: cannot turn off global flag"
  | .onAndOff => "bad inline flags: flag turned on and off"
  | .unknownFlag => "unknown flag"
  | .missingAfterFlags expected => "missing " ++ expected
  | .unbalanced => "unbalanced parenthesis"
  | .varyingLookBehind => "look-behind requires fixed-width pattern"
  | .farLookBehind => "looks too much behind"
  | .templateRepeat operator => "internal: unsupported template operator " ++ operator

/-- A fault in the text of an expression, with its place where it has one. -/
structure SyntaxError where
  fault : Fault
  source : Text
  /-- The index of the place in the text. -/
  position : Option Nat
  deriving DecidableEq, Repr

/-- The line and the column of a place, both counted from one. -/
def lineAndColumn (source : Text) (position : Nat) : Nat × Nat :=
  let before := source.take position
  let lastLine := (before.reverse.takeWhile (· != '\n')).length
  (before.count '\n' + 1, lastLine + 1)

/-- The wording of a syntax error. -/
def SyntaxError.message (e : SyntaxError) : String :=
  match e.position with
  | none => e.fault.message
  | some position =>
    let place := e.fault.message ++ " at position " ++ toString position
    if e.source.contains '\n' then
      let (line, column) := lineAndColumn e.source position
      place ++ " (line " ++ toString line ++ ", column " ++ toString column ++ ")"
    else place

/-- Why an expression does not compile. -/
inductive CompileError where
  | malformed (error : SyntaxError)
  /-- The locale flag, which is not for text. -/
  | localeFlag
  /-- Two flags for the alphabet of text. -/
  | asciiAndUnicode
  /-- The Unicode flag, which is not for bytes. -/
  | unicodeFlag
  /-- Two flags for the alphabet of bytes. -/
  | asciiAndLocale
  | countTooLarge
  /-- A repetition count with more digits than are read. -/
  | countTooLong (digits : Nat)
  /-- An escaped code point beyond the machine's numbers. -/
  | codeTooLarge
  | flagsTooLarge
  /-- Groups that nest deeper than can be read. -/
  | tooDeep
  deriving DecidableEq, Repr

/-- The wording of a number with too many digits. -/
def tooManyDigits (digits : Nat) : String :=
  "Exceeds the limit (4300 digits) for integer string conversion: value has "
    ++ toString digits
    ++ " digits; use sys.set_int_max_str_digits() to increase the limit"

/-- The wording of a number beyond the machine's. -/
def beyondMachine : String := "Python int too large to convert to C int"

/-- The wording of a depth beyond the stack's. -/
def beyondStack : String := "maximum recursion depth exceeded"

/-- The wording of a refusal. -/
def CompileError.message : CompileError → String
  | .malformed error => error.message
  | .localeFlag => "cannot use LOCALE flag with a str pattern"
  | .asciiAndUnicode => "ASCII and UNICODE flags are incompatible"
  | .unicodeFlag => "cannot use UNICODE flag with a bytes pattern"
  | .asciiAndLocale => "ASCII and LOCALE flags are incompatible"
  | .countTooLarge => "the repetition number is too large"
  | .countTooLong digits => tooManyDigits digits
  | .codeTooLarge => beyondMachine
  | .flagsTooLarge => beyondMachine
  | .tooDeep => beyondStack

end Retag.Regex

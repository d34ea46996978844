/-!
# Flags of expressions

A set of flags is a machine word, one bit for each flag. The word is shown to
users, as a signed number, with the markers that were made from an expression,
so the bits are part of what the library promises; bits without a flag of their
own are kept.
-/

namespace Retag.Regex

/-- The flags of an expression. -/
inductive Flag where
  | template
  | ignoreCase
  /-- Letters as the current locale has them; not for expressions on text. -/
  | locale
  /-- `^` and `$` match at every line. -/
  | multiLine
  /-- The dot matches a line feed as well. -/
  | dotAll
  | unicode
  /-- Blanks and comments between the items are skipped. -/
  | verbose
  /-- Ask for a description of the compiled expression. -/
  | debug
  | ascii
  deriving DecidableEq, Repr

/-- What an expression is matched with. -/
inductive Subject where
  | text
  | bytes
  deriving DecidableEq, Repr

/-- A set of flags. -/
abbrev Flags := BitVec 32

/-- The set of one flag. -/
def Flag.bit : Flag → Flags
  | .template => 1
  | .ignoreCase => 2
  | .locale => 4
  | .multiLine => 8
  | .dotAll => 16
  | .unicode => 32
  | .verbose => 64
  | .debug => 128
  | .ascii => 256

namespace Flags

/-- Whether a flag is in the set. -/
def has (flags : Flags) (flag : Flag) : Bool := flags &&& flag.bit != 0

/-- The flags of both sets. -/
def union (a b : Flags) : Flags := a ||| b

/-- The flags of the first set that are not in the second. -/
def without (a b : Flags) : Flags := a ^^^ (a &&& b)

/-- Whether two sets have a flag in common. -/
def meets (a b : Flags) : Bool := a &&& b != 0

/-- The flags that say what a letter is: at most one of them is on. -/
def alphabets : Flags := 4 ||| 32 ||| 256

/-- The flags that hold for a whole expression or not at all. -/
def wholeOnly : Flags := 1 ||| 128

/-- The flags inside a group that turns flags on and off. A flag for the
alphabet replaces the one that was on. -/
def inside (flags on off : Flags) : Flags :=
  let flags := if on.meets alphabets then flags.without alphabets else flags
  (flags.union on).without off

/-- The flag of a letter in an inline group of flags. -/
def ofLetter? : Char → Option Flag
  | 'i' => some .ignoreCase
  | 'L' => some .locale
  | 'm' => some .multiLine
  | 's' => some .dotAll
  | 'x' => some .verbose
  | 'a' => some .ascii
  | 't' => some .template
  | 'u' => some .unicode
  | _ => none

/-- The flags that a name stands for: a long name, or its letter. -/
def ofName? : String → Option Flags
  | "NOFLAG" => some 0
  | "TEMPLATE" | "T" => some 1
  | "IGNORECASE" | "I" => some 2
  | "LOCALE" | "L" => some 4
  | "MULTILINE" | "M" => some 8
  | "DOTALL" | "S" => some 16
  | "UNICODE" | "U" => some 32
  | "VERBOSE" | "X" => some 64
  | "DEBUG" => some 128
  | "ASCII" | "A" => some 256
  | _ => none

end Flags

end Retag.Regex

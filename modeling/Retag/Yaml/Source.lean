import Retag.Yaml.Token

/-!
# Walking through a YAML text

The place in a YAML text with its column, and the indentation of the collections
around it. A text ends in as many null characters as one cares to look at; none
can occur in the text itself.

A key need not be marked: where one could begin, `keys` remembers the place, and
a colon behind it makes it a key. Such a key lies within one line and within
1024 characters.
-/

namespace Retag.Yaml

/-- A place where a key that is not marked may have begun. -/
structure PossibleKey where
  /-- The number of tokens before the key. -/
  token : Nat
  /-- Whether nothing but a key can stand there. -/
  required : Bool
  /-- The number of characters before the key. -/
  index : Nat
  /-- The number of lines before the key. -/
  line : Nat
  column : Nat
  deriving Repr

/-- How far a text has been taken apart. -/
structure Source where
  rest : Text
  index : Nat
  line : Nat
  /-- The number of characters read on the current line. -/
  column : Nat
  /-- The number of brackets and braces that are open. -/
  flowLevel : Int
  tokens : Array Token
  /-- The column of the innermost collection of lines; none is `-1`. -/
  indent : Int
  /-- The columns of the collections around it. -/
  outer : List Int
  /-- Whether a key that is not marked may begin here. -/
  allowKey : Bool
  /-- The possible keys, one for each depth of brackets. -/
  keys : List (Int × PossibleKey)

/-- Computations that read on or find a fault. -/
abbrev Walk := StateT Source (Except Fault)

/-- The characters that end a line. -/
def isBreak (c : Char) : Bool :=
  c == '\n' || c == '\r' || c == '\u0085' || c == '\u2028' || c == '\u2029'

/-- Whether the text or the line ends. -/
def isLineEnd (c : Char) : Bool := c == '\x00' || isBreak c

/-- Whether the text, the line or a word ends. -/
def isGap (c : Char) : Bool := isLineEnd c || c == ' ' || c == '\t'

/-- Whether the text, the line or a word ends; a tab ends nothing here. -/
def isSpaceOrEnd (c : Char) : Bool := isLineEnd c || c == ' '

/-- Letters and digits of ASCII, the dash and the underscore. -/
def isNameChar (c : Char) : Bool :=
  ('0' ≤ c && c ≤ '9') || ('A' ≤ c && c ≤ 'Z') || ('a' ≤ c && c ≤ 'z')
    || c == '-' || c == '_'

/-- Decimal digits of ASCII. -/
def isDecimal (c : Char) : Bool := '0' ≤ c && c ≤ '9'

/-- Hexadecimal digits of ASCII. -/
def isHexadecimal (c : Char) : Bool :=
  isDecimal c || ('A' ≤ c && c ≤ 'F') || ('a' ≤ c && c ≤ 'f')

namespace Walk

/-- Stops with the news that the text is not YAML. -/
def malformed {α : Type} : Walk α := throw .malformed

/-- The character so many places ahead. -/
def peek (n : Nat) : Walk Char := do return ((← get).rest.drop n).headD '\x00'

/-- The next characters, at most so many. -/
def ahead (n : Nat) : Walk Text := do return (← get).rest.take n

/-- The place behind one more character. -/
def step (s : Source) : Source :=
  match s.rest with
  | [] => s
  | c :: rest =>
    let breaks := isBreak c && !(c == '\r' && rest.head? == some '\n')
    if breaks then
      { s with rest := rest, index := s.index + 1, line := s.line + 1, column := 0 }
    else if c == '\ufeff' then { s with rest := rest, index := s.index + 1 }
    else { s with rest := rest, index := s.index + 1, column := s.column + 1 }

/-- Reads so many characters. -/
def forward (n : Nat) : Walk Unit := modify fun s => n.repeat step s

/-- Reads characters of a class as long as they last. -/
def takeWhile (p : Char → Bool) : Walk Text := do
  let text := (← get).rest.takeWhile p
  forward text.length
  return text

/-- Skips spaces. -/
def skipSpaces : Walk Unit := do let _ ← takeWhile (· == ' ')

/-- Skips a comment, if one begins here. -/
def skipComment : Walk Unit := do
  if (← peek 0) == '#' then let _ ← takeWhile fun c => !isLineEnd c

/-- Reads the end of a line, if it is here: a line feed stands for most of them. -/
def lineBreak : Walk Text := do
  let c ← peek 0
  if c == '\r' && (← peek 1) == '\n' then
    forward 2
    return ['\n']
  else if c == '\r' || c == '\n' || c == '\u0085' then
    forward 1
    return ['\n']
  else if isBreak c then
    forward 1
    return [c]
  else return []

/-- Requires a character of a class next. -/
def expect (p : Char → Bool) : Walk Unit := do unless p (← peek 0) do malformed

/-- Whether a document mark stands here. -/
def atDocumentMark : Walk Bool := do
  let mark ← ahead 3
  return (mark == ['-', '-', '-'] || mark == ['.', '.', '.']) && isGap (← peek 3)

/-- The rest of a line that may hold nothing but a comment. -/
def endOfLine : Walk Unit := do
  skipSpaces
  skipComment
  expect isLineEnd
  let _ ← lineBreak

/-- The number of characters left, as a bound for loops. -/
def size : Walk Nat := do return (← get).rest.length + 1

/-- Adds a token. -/
def emit (t : Token) : Walk Unit := modify fun s => { s with tokens := s.tokens.push t }

/-- Says whether a key that is not marked may begin next. -/
def setAllowKey (allow : Bool) : Walk Unit :=
  modify fun s => { s with allowKey := allow }

end Walk

end Retag.Yaml

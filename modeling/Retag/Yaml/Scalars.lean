import Retag.Yaml.Source

/-!
# Scalars of a YAML text

The three ways to write a scalar: plain, between quotes, and as a block of
lines. Each function starts at the scalar and yields its text. Line breaks
inside a scalar are folded: one becomes a space, and of several the first is dropped.
-/

namespace Retag.Yaml

namespace Walk

/-! ## Plain scalars -/

/-- Whether a plain scalar ends before its next character. -/
def endsPlain (flow : Bool) (c next : Char) : Bool :=
  isGap c
    || (c == ':' && (isGap next
      || (flow &&
        (next == ',' || next == '[' || next == ']' || next ==
          '\x7b' || next == '\x7d'))))
    || (flow &&
      (c == ',' || c == '?' || c == '[' || c == ']' || c == '\x7b' || c == '\x7d'))

/-- The number of characters of a plain scalar up to a gap. -/
def plainLength (flow : Bool) : Text → Nat
  | [] => 0
  | c :: rest =>
    if endsPlain flow c (rest.headD '\x00') then 0 else plainLength flow rest + 1

/-- The line breaks after the first one, with the spaces around them dropped.
Nothing is left of them before a document mark. -/
def plainBreaks : Nat → Text → Walk (Option Text)
  | 0, breaks => return some breaks
  | n + 1, breaks => do
    let c ← peek 0
    if c == ' ' then
      forward 1
      plainBreaks n breaks
    else if isBreak c then
      let next ← lineBreak
      if ← atDocumentMark then return none
      plainBreaks n (breaks ++ next)
    else return some breaks

/-- A line break with the breaks after it, folded. -/
def folded (first breaks : Text) : Text :=
  if first != ['\n'] then first ++ breaks
  else if breaks.isEmpty then [' '] else breaks

/-- What stands between two words of a plain scalar; empty if the scalar ends. -/
def plainSpaces : Walk Text := do
  let spaces ← takeWhile (· == ' ')
  if isBreak (← peek 0) then
    let first ← lineBreak
    setAllowKey true
    if ← atDocumentMark then return []
    match ← plainBreaks (← size) [] with
    | none => return []
    | some breaks => return folded first breaks
  else return spaces

/-- The words of a plain scalar, after those already read. -/
def plainWords (flow : Bool) (indent : Int) : Nat → Text → Text → Walk Text
  | 0, text, _ => return text
  | n + 1, text, spaces => do
    if (← peek 0) == '#' then return text
    let count := plainLength flow (← get).rest
    if count == 0 then return text
    setAllowKey false
    let word ← ahead count
    forward count
    let text := text ++ spaces ++ word
    let spaces ← plainSpaces
    let s ← get
    if spaces.isEmpty || (← peek 0) == '#'
      || (!flow && (s.column : Int) < indent) then
      return text
    plainWords flow indent n text spaces

/-- A plain scalar. -/
def plain : Walk Text := do
  let s ← get
  plainWords (s.flowLevel != 0) (s.indent + 1) (← size) [] []

/-! ## Quoted scalars -/

/-- The line breaks after the first one inside quotes. A document mark must not
stand there. -/
def quotedBreaks : Nat → Text → Walk Text
  | 0, breaks => return breaks
  | n + 1, breaks => do
    if ← atDocumentMark then malformed
    let _ ← takeWhile fun c => c == ' ' || c == '\t'
    if isBreak (← peek 0) then
      let next ← lineBreak
      quotedBreaks n (breaks ++ next)
    else return breaks

/-- The character that a letter after a backslash stands for. -/
def replacement? : Char → Option Char
  | '0' => some '\x00'
  | 'a' => some '\x07'
  | 'b' => some '\x08'
  | 't' => some '\t'
  | '\t' => some '\t'
  | 'n' => some '\n'
  | 'v' => some '\x0b'
  | 'f' => some '\x0c'
  | 'r' => some '\r'
  | 'e' => some '\x1b'
  | ' ' => some ' '
  | '"' => some '"'
  | '\\' => some '\\'
  | '/' => some '/'
  | 'N' => some '\u0085'
  | '_' => some '\u00a0'
  | 'L' => some '\u2028'
  | 'P' => some '\u2029'
  | _ => none

/-- The number of hexadecimal digits after a letter. -/
def digitCount? : Char → Option Nat
  | 'x' => some 2
  | 'u' => some 4
  | 'U' => some 8
  | _ => none

/-- The number that hexadecimal digits denote. -/
def hexValue (digits : Text) : Nat :=
  digits.foldl (fun n c =>
    16 * n + (if isDecimal c then c.toNat - 48 else if 'a' ≤ c then c.toNat - 87
      else c.toNat - 55)) 0

/-- A character given by its number. -/
def numbered (count : Nat) : Walk Text := do
  let digits ← ahead count
  unless digits.length == count && digits.all isHexadecimal do malformed
  let code := hexValue digits
  if code > 0x7fffffff then throw .hugeCodePoint
  if code > 0x10ffff then throw .noCodePoint
  forward count
  return [Char.ofNat code]

/-- An escape, after its backslash. -/
def quotedEscape : Walk Text := do
  let c ← peek 0
  match replacement? c, digitCount? c with
  | some d, _ =>
    forward 1
    return [d]
  | none, some count =>
    forward 1
    numbered count
  | none, none =>
    if isBreak c then
      let _ ← lineBreak
      quotedBreaks (← size) []
    else malformed

/-- Whether a character stands for itself inside quotes. -/
def isQuotedChar (c : Char) : Bool := !(isGap c || c == '\'' || c == '"' || c == '\\')

/-- The characters of a quoted scalar up to a gap or to the closing quote. -/
def quotedWord (double : Bool) : Nat → Text → Walk Text
  | 0, text => return text
  | n + 1, text => do
    let text := text ++ (← takeWhile isQuotedChar)
    let c ← peek 0
    if !double && c == '\'' && (← peek 1) == '\'' then
      forward 2
      quotedWord double n (text ++ ['\''])
    else if (double && c == '\'') || (!double && (c == '"' || c == '\\')) then
      forward 1
      quotedWord double n (text ++ [c])
    else if double && c == '\\' then
      forward 1
      let next ← quotedEscape
      quotedWord double n (text ++ next)
    else return text

/-- The gap after a word of a quoted scalar. -/
def quotedSpaces : Walk Text := do
  let spaces ← takeWhile fun c => c == ' ' || c == '\t'
  let c ← peek 0
  if c == '\x00' then malformed
  if isBreak c then
    let first ← lineBreak
    return folded first (← quotedBreaks (← size) [])
  else return spaces

/-- The words of a quoted scalar and the closing quote. -/
def quotedWords (double : Bool) (quote : Char) : Nat → Text → Walk Text
  | 0, text => return text
  | n + 1, text => do
    if (← peek 0) == quote then
      forward 1
      return text
    let spaces ← quotedSpaces
    let word ← quotedWord double (← size) []
    quotedWords double quote n (text ++ spaces ++ word)

/-- A quoted scalar. -/
def quoted : Walk Text := do
  let quote ← peek 0
  let double := quote == '"'
  forward 1
  let word ← quotedWord double (← size) []
  quotedWords double quote (← size) word

/-! ## Blocks of lines -/

/-- What becomes of the line breaks at the end of a block. -/
inductive Chomping where
  | strip
  | clip
  | keep
  deriving DecidableEq, Repr

/-- The sign for chomping, if it is next. -/
def chomping? : Walk (Option Chomping) := do
  let c ← peek 0
  if c == '+' then
    forward 1
    return some .keep
  else if c == '-' then
    forward 1
    return some .strip
  else return none

/-- The digit for the indentation, if it is next. -/
def increment? : Walk (Option Nat) := do
  let c ← peek 0
  if isDecimal c then
    if c == '0' then malformed
    forward 1
    return some (c.toNat - 48)
  else return none

/-- The two signs after the mark of a block, in either order. -/
def blockHeader : Walk (Chomping × Option Nat) := do
  let first ← chomping?
  let increment ← increment?
  let second ← if first.isNone && increment.isSome then chomping? else pure none
  expect isSpaceOrEnd
  return ((first.or second).getD .clip, increment)

/-- The empty lines at the start of a block, and the greatest column of their spaces. -/
def blockIndentation : Nat → Text → Nat → Walk (Text × Nat)
  | 0, breaks, column => return (breaks, column)
  | n + 1, breaks, column => do
    let c ← peek 0
    if c == ' ' then
      forward 1
      blockIndentation n breaks (max column (← get).column)
    else if isBreak c then
      let next ← lineBreak
      blockIndentation n (breaks ++ next) column
    else return (breaks, column)

/-- Skips the spaces before a column. -/
def skipIndent (indent : Int) : Nat → Walk Unit
  | 0 => return ()
  | n + 1 => do
    let s ← get
    if (s.column : Int) < indent && (← peek 0) == ' ' then
      forward 1
      skipIndent indent n

/-- Empty lines inside a block, and the indentation of the line after them. -/
def blockBreaks (indent : Int) : Nat → Text → Walk Text
  | 0, breaks => return breaks
  | n + 1, breaks => do
    skipIndent indent (← size)
    if isBreak (← peek 0) then
      let next ← lineBreak
      blockBreaks indent n (breaks ++ next)
    else return breaks

/-- Whether a line of a block begins here. -/
def atBlockLine (indent : Int) : Walk Bool := do
  let s ← get
  return (s.column : Int) == indent && !s.rest.isEmpty

/-- What joins two lines of a block. -/
def joined (fold : Bool) (lineBreak : Text) (leadsWithText nextIsText : Bool)
    (breaks : Text) :
    Text :=
  if fold && lineBreak == ['\n'] && leadsWithText && nextIsText then
    if breaks.isEmpty then [' '] else []
  else lineBreak

/-- The lines of a block: its text, the last line break, and the breaks after it. -/
def blockLines (fold : Bool) (indent : Int) :
    Nat → Text → Text → Walk (Text × Text × Text)
  | 0, text, breaks => return (text, [], breaks)
  | n + 1, text, breaks => do
    let leadsWithText := !((← peek 0) == ' ' || (← peek 0) == '\t')
    let line ← takeWhile fun c => !isLineEnd c
    let text := text ++ breaks ++ line
    let last ← lineBreak
    let breaks ← blockBreaks indent (← size) []
    if ← atBlockLine indent then
      let next ← peek 0
      let join := joined fold last leadsWithText (!(next == ' ' || next == '\t')) breaks
      blockLines fold indent n (text ++ join) breaks
    else return (text, last, breaks)

/-- A block of lines, whose line breaks are folded or not. -/
def block (fold : Bool) : Walk Text := do
  forward 1
  let (chomping, increment) ← blockHeader
  endOfLine
  let least : Int := max ((← get).indent + 1) 1
  let (breaks, indent) ← match increment with
    | none => do
      let (breaks, column) ← blockIndentation (← size) [] 0
      pure (breaks, max least (column : Int))
    | some increment => do
      let indent := least + increment - 1
      pure (← blockBreaks indent (← size) [], indent)
  let (text, last, breaks) ← if ← atBlockLine indent then
      blockLines fold indent (← size) [] breaks
    else pure ([], [], breaks)
  return text ++ (if chomping == .strip then [] else last)
    ++ (if chomping == .keep then breaks else [])

end Walk

end Retag.Yaml

import Retag.Regex.Reader
import Retag.Regex.CharSet
import Retag.Text.Cursor

/-!
# Compiled expressions

A `Node` is an expression in which the flags have been applied: every character
comparison is a `CharSet`, every place is fully determined, and a look-behind
knows how far to step back. `Term.compile` makes it from a `Term`, and
`Regex.compile` from the text of an expression.
-/

namespace Retag.Regex

open Retag.Text

/-- A place that is asked for without taking a character. -/
inductive Place where
  | textStart
  /-- The start of the text or of a line. -/
  | lineStart
  | textEnd
  /-- The end of the text, or before a line feed that ends it. -/
  | lastLineEnd
  /-- The end of the text or of a line. -/
  | lineEnd
  /-- The edge of a word of ASCII or Unicode letters, or a place that is none. -/
  | wordEdge (ascii negated : Bool)
  deriving DecidableEq, Repr

/-- Whether the character after a cursor is a line feed. -/
def beforeLineFeed (c : Cursor) : Bool := c.rest.head? == some '\n'

/-- Whether a character, if there is one, belongs to a word. -/
def wordAt (ascii : Bool) (c : Option Char) : Bool :=
  match c with
  | some c => Category.word.has ascii c
  | none => false

/-- Whether a cursor stands at such a place. In an empty text no place is the
edge of a word, and none is not. -/
def Place.holds (p : Place) (c : Cursor) : Bool :=
  match p with
  | .textStart => c.isFirst
  | .lineStart => c.isFirst || c.before.head? == some '\n'
  | .textEnd => c.isLast
  | .lastLineEnd => c.isLast || (beforeLineFeed c && c.left == 1)
  | .lineEnd => c.isLast || beforeLineFeed c
  | .wordEdge ascii negated =>
    if c.isFirst && c.isLast then false
    else (wordAt ascii c.before.head? != wordAt ascii c.rest.head?) != negated

/-- The place that an anchor means under the given flags. -/
def Anchor.place (flags : Flags) : Anchor → Place
  | .start => if flags.has .multiLine then .lineStart else .textStart
  | .finish => if flags.has .multiLine then .lineEnd else .lastLineEnd
  | .textStart => .textStart
  | .textEnd => .textEnd
  | .wordEdge negated => .wordEdge (!flags.has .unicode) negated

/-- A compiled expression. -/
inductive Node where
  | done
  | one (set : CharSet)
  | cat (a b : Node)
  | alt (a b : Node)
  | place (p : Place)
  /-- A repetition: at least `min` times and then at most `room` times more. -/
  | many (mode : Mode) (min : Nat) (room : Option Nat) (body : Node)
  /-- A group whose text is kept under a number. -/
  | group (index : Nat) (body : Node)
  /-- An expression that is not entered again once it has matched. -/
  | atomic (body : Node)
  /-- A look at what follows, after stepping back. -/
  | look (back : Nat) (negated : Bool) (body : Node)
  | again (index : Nat) (folding : Folding)
  /-- One of two expressions, by whether a group has matched. -/
  | whenSet (index : Nat) (yes no : Node)
  deriving DecidableEq, Repr

/-- The distance that a look-behind steps back, which must be the same for every
match. -/
def lookBack (w : Width) : Except Fault Nat :=
  if w.least > Width.unlimited then .error .farLookBehind
  else if w.isFixed then .ok w.least
  else .error .varyingLookBehind

/-- Applies the flags to a term. -/
def Term.compile (groups : Nat → Width) : Flags → Term → Except Fault Node
  | _, .empty => .ok .done
  | flags, .cat a b => do
    return .cat (← a.compile groups flags) (← b.compile groups flags)
  | flags, .alt a b => do
    return .alt (← a.compile groups flags) (← b.compile groups flags)
  | flags, .char code => .ok (.one (.ofCode flags false code))
  | flags, .notChar code => .ok (.one (.ofCode flags true code))
  | flags, .any => .ok (.one (if flags.has .dotAll then .anything else .notLineFeed))
  | flags, .set negated entries => .ok (.one (.ofEntries flags negated entries))
  | flags, .anchor a => .ok (.place (a.place flags))
  | flags, .many mode least greatest body => do
    if flags.has .template then throw (.templateRepeat mode.operator)
    return .many mode least (greatest.map (· - least)) (← body.compile groups flags)
  | flags, .group index on off body => do
    let body ← body.compile groups (flags.inside on off)
    match index with
    | some index => return .group index body
    | none => return body
  | flags, .atomic body => do return .atomic (← body.compile groups flags)
  | flags, .look behind negated body => do
    let back ← if behind then lookBack (body.width groups) else pure 0
    return .look back negated (← body.compile groups flags)
  | flags, .again index => .ok (.again index flags.folding)
  | flags, .whenSet index yes no => do
    return .whenSet index (← yes.compile groups flags) (← no.compile groups flags)

end Retag.Regex

namespace Retag

/-- A compiled expression with the text it was made from. -/
structure Regex where
  source : Text
  /-- The flags given and found in the text. -/
  flags : Regex.Flags
  groupCount : Nat
  node : Regex.Node
  deriving DecidableEq, Repr

/-- Compiles the text of an expression for some subject. The text is read with
the lower bits of the flags; that they are no machine word is seen last. -/
def Regex.compileFor (subject : Regex.Subject) (source : Text) (flags : Int) :
    Except Regex.CompileError Regex := do
  let word := BitVec.ofInt 32 flags
  let parsed ← Regex.Term.read subject source word
  let widths (index : Nat) : Regex.Width := (parsed.groups[index]?.join).getD ⟨0, 0⟩
  match parsed.term.compile widths parsed.flags with
  | .ok node =>
    if word.toInt = flags then
      return ⟨source, parsed.flags, parsed.groupCount, node⟩
    else throw .flagsTooLarge
  | .error fault => throw (.malformed ⟨fault, source, none⟩)

/-- Compiles the text of an expression on text. -/
def Regex.compile (source : Text) (flags : Int) : Except Regex.CompileError Regex :=
  Regex.compileFor .text source flags

end Retag

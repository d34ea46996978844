import Retag.Regex.Flags

/-!
# Expressions as written

A `Term` is an expression as its text spells it: groups still carry the flags
that they turn on and off, and character sets still hold the ranges and classes
between their brackets. What a term means depends on the flags around it;
`Retag.Regex.Node` is the form in which they have been applied.

Characters are code points here, because an escape can name a code point that no
text holds.
-/

namespace Retag.Regex

/-- The named classes of characters. -/
inductive Category where
  | digit
  | blank
  | word
  deriving DecidableEq, Repr

/-- One entry of a character set. -/
inductive SetEntry where
  | char (code : Nat)
  /-- The code points from `low` to `high`. -/
  | range (low high : Nat)
  | category (category : Category) (negated : Bool)
  deriving DecidableEq, Repr

/-- The places that an expression can ask for without taking a character. -/
inductive Anchor where
  /-- The start, written `^`. -/
  | start
  /-- The end, written `$`. -/
  | finish
  | textStart
  | textEnd
  /-- The edge of a word, or a place that is none. -/
  | wordEdge (negated : Bool)
  deriving DecidableEq, Repr

/-- The ways to repeat. -/
inductive Mode where
  /-- As often as possible, fewer on failure. -/
  | greedy
  /-- As rarely as possible, more on failure. -/
  | lazy
  /-- As often as possible, and never fewer. -/
  | possessive
  deriving DecidableEq, Repr

/-- The name of the repeating operator, as it is shown in messages. -/
def Mode.operator : Mode → String
  | .greedy => "MAX_REPEAT"
  | .lazy => "MIN_REPEAT"
  | .possessive => "POSSESSIVE_REPEAT"

/-- An expression as written. -/
inductive Term where
  | empty
  | cat (a b : Term)
  | alt (a b : Term)
  | char (code : Nat)
  | notChar (code : Nat)
  | any
  /-- A character of a set, or outside it. -/
  | set (negated : Bool) (entries : List SetEntry)
  | anchor (place : Anchor)
  /-- A repetition; without `max` it has no upper limit. -/
  | many (mode : Mode) (min : Nat) (max : Option Nat) (body : Term)
  /-- A group, numbered if it captures, with the flags it turns on and off. -/
  | group (index : Option Nat) (on off : Flags) (body : Term)
  /-- A group that is not entered again once it has matched. -/
  | atomic (body : Term)
  /-- A look at what follows or precedes. -/
  | look (behind negated : Bool) (body : Term)
  | again (index : Nat)
  /-- One of two terms, by whether a group has matched. -/
  | whenSet (index : Nat) (yes no : Term)
  deriving DecidableEq, Repr

/-- The number of characters that a term can match: the least and the greatest. -/
structure Width where
  least : Nat
  greatest : Nat
  deriving DecidableEq, Repr

namespace Width

/-- Widths are counted up to this limit. -/
def limit : Nat := 18446744073709551616

/-- The greatest count of a repetition, and the stand-in for its absence. -/
def unlimited : Nat := 4294967295

/-- A width cut at the limit. -/
def cut (w : Width) : Width := ⟨min w.least limit, min w.greatest limit⟩

/-- The width of two terms after each other. -/
def plus (a b : Width) : Width := ⟨a.least + b.least, a.greatest + b.greatest⟩

/-- The width of one of two terms. -/
def either (a b : Width) : Width := ⟨min a.least b.least, max a.greatest b.greatest⟩

/-- The width of a repetition. -/
def times (w : Width) (least : Nat) (greatest : Option Nat) : Width :=
  match greatest with
  | none => ⟨w.least * least, if w.greatest == 0 then 0 else limit⟩
  | some greatest => ⟨w.least * least, w.greatest * greatest⟩

/-- Whether every match has the same width. -/
def isFixed (w : Width) : Bool := w.least == w.greatest

end Width

/-- The width of a term, given the widths of the groups it can refer to. -/
def Term.width (groups : Nat → Width) : Term → Width
  | .empty => ⟨0, 0⟩
  | .cat a b => ((a.width groups).plus (b.width groups)).cut
  | .alt a b => ((a.width groups).either (b.width groups)).cut
  | .char _ => ⟨1, 1⟩
  | .notChar _ => ⟨1, 1⟩
  | .any => ⟨1, 1⟩
  | .set .. => ⟨1, 1⟩
  | .anchor _ => ⟨0, 0⟩
  | .many _ least greatest body => ((body.width groups).times least greatest).cut
  | .group _ _ _ body => body.width groups
  | .atomic body => body.width groups
  | .look .. => ⟨0, 0⟩
  | .again index => groups index
  | .whenSet _ yes no => ((yes.width groups).either (no.width groups)).cut

/-- The terms of a list after each other; the list holds the last one first. -/
def Term.ofReversed : List Term → Term
  | [] => .empty
  | [t] => t
  | t :: earlier => .cat (Term.ofReversed earlier) t

/-- One of the terms of a nonempty list, tried in order. -/
def Term.oneOf (first : Term) : List Term → Term
  | [] => first
  | second :: more => .alt first (Term.oneOf second more)

end Retag.Regex

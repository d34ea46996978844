import Retag.Regex.Node

/-!
# Matching

A node matches at a cursor by trying its alternatives in order and going back on
failure. `Node.run` takes the rest of the work as a continuation: `node.run k s`
finds the first way for the node to match at `s` after which `k` succeeds. So
each kind of node has one equation, and going back is the choice between the
answers of two calls.

A repetition stops when a turn takes no character: the turn counts, and what
follows is tried from there. Hence the number of characters left bounds the
number of turns, and `greedy`, `lazy` and `possessive` recurse on it.

A group's text is known by its two ends. Entering a group again moves its start
and keeps the old end until the group is left; a group whose end lies before its
start counts as not matched.
-/

namespace Retag.Regex

open Retag.Text

/-- The two ends of a group's text, as far as they are known. -/
structure Mark where
  start : Cursor
  stop : Option Cursor
  deriving DecidableEq

/-- The groups entered so far, each under its number. -/
abbrev Marks := List (Nat × Mark)

namespace Marks

/-- Replaces what is kept under a number. -/
def put (marks : Marks) (index : Nat) (mark : Mark) : Marks :=
  (index, mark) :: marks.filter fun entry => entry.1 != index

/-- Records that a group is entered. -/
def enter (marks : Marks) (index : Nat) (c : Cursor) : Marks :=
  match marks.lookup index with
  | some mark => marks.put index ⟨c, mark.stop⟩
  | none => marks.put index ⟨c, none⟩

/-- Records that a group is left. -/
def leave (marks : Marks) (index : Nat) (c : Cursor) : Marks :=
  match marks.lookup index with
  | some mark => marks.put index ⟨mark.start, some c⟩
  | none => marks

/-- The two ends of a group that has matched. -/
def span? (marks : Marks) (index : Nat) : Option (Cursor × Cursor) :=
  match marks.lookup index with
  | some ⟨start, some stop⟩ =>
    if stop.left ≤ start.left then some (start, stop) else none
  | _ => none

/-- The text of a group that has matched. -/
def text? (marks : Marks) (index : Nat) : Option Text :=
  (marks.span? index).map fun (start, stop) => start.upTo stop

end Marks

/-- Where a match attempt stands. -/
structure Spot where
  cursor : Cursor
  marks : Marks
  deriving DecidableEq

/-- What is left to do after a part of an expression. -/
abbrev Cont := Spot → Option Spot

/-- One answer, or else another. -/
def orTry (first : Option Spot) (second : Unit → Option Spot) : Option Spot :=
  match first with
  | some s => some s
  | none => second ()

/-- Exactly so many turns. -/
def times (body : Cont → Cont) : Nat → Cont → Cont
  | 0, k, s => k s
  | n + 1, k, s => body (fun t => times body n k t) s

/-- The limit after one more turn. -/
def lessRoom (room : Option Nat) : Option Nat := room.map (· - 1)

/-- As many turns as possible, then fewer. The first number bounds the
characters left. -/
def greedy (body : Cont → Cont) (k : Cont) : Nat → Option Nat → Cont
  | _, some 0, s => k s
  | 0, _, s => orTry (body k s) fun _ => k s
  | fuel + 1, room, s =>
    orTry (body (fun t =>
      if t.cursor.left < s.cursor.left then greedy body k fuel (lessRoom room) t
      else k t) s)
      fun _ => k s

/-- As few turns as possible, then more. The first number bounds the characters left. -/
def lazy (body : Cont → Cont) (k : Cont) : Nat → Option Nat → Cont
  | _, some 0, s => k s
  | 0, _, s => orTry (k s) fun _ => body k s
  | fuel + 1, room, s =>
    orTry (k s) fun _ => body (fun t =>
      if t.cursor.left < s.cursor.left then lazy body k fuel (lessRoom room) t
      else k t) s

/-- As many turns as possible, each of them final. The first number bounds the
characters left. -/
def possessive (body : Cont → Cont) (k : Cont) : Nat → Option Nat → Cont
  | _, some 0, s => k s
  | 0, _, s =>
    match body some s with
    | none => k s
    | some t => k t
  | fuel + 1, room, s =>
    match body some s with
    | none => k s
    | some t =>
      if t.cursor.left < s.cursor.left then possessive body k fuel (lessRoom room) t
      else k t

/-- A part of an expression that is not entered again. -/
def once (body : Cont → Cont) (k : Cont) : Cont := fun s =>
  match body some s with
  | some t => k t
  | none => none

/-- A repetition: the turns that must be, and then those that may be. -/
def repetition (mode : Mode) (least : Nat) (room : Option Nat) (body : Cont → Cont)
    (k : Cont) :
    Cont :=
  match mode with
  | .greedy => times body least fun s => greedy body k s.cursor.left room s
  | .lazy => times body least fun s => lazy body k s.cursor.left room s
  | .possessive =>
    times (once body) least fun s => possessive body k s.cursor.left room s

/-- Takes the given characters, letters agreeing as the folding says. -/
def takeText (folding : Folding) : Text → Cursor → Option Cursor
  | [], c => some c
  | x :: text, c =>
    match c.next? with
    | some (y, d) =>
      if folding.lower x.toNat == folding.lower y.toNat then takeText folding text d
      else none
    | none => none

/-- The first way for a node to match after which the continuation succeeds. -/
def Node.run : Node → Cont → Cont
  | .done, k, s => k s
  | .one set, k, s =>
    match s.cursor.next? with
    | some (x, c) => if set.has x then k ⟨c, s.marks⟩ else none
    | none => none
  | .cat a b, k, s => a.run (fun t => b.run k t) s
  | .alt a b, k, s => orTry (a.run k s) fun _ => b.run k s
  | .place p, k, s => if p.holds s.cursor then k s else none
  | .many mode least room body, k, s =>
    repetition mode least room (fun k t => body.run k t) k s
  | .group index body, k, s =>
    body.run (fun t => k ⟨t.cursor, t.marks.leave index t.cursor⟩)
      ⟨s.cursor, s.marks.enter index s.cursor⟩
  | .atomic body, k, s => once (fun k t => body.run k t) k s
  | .look back negated body, k, s =>
    match s.cursor.back? back with
    | none => if negated then k s else none
    | some c =>
      match body.run some ⟨c, s.marks⟩ with
      | some t => if negated then none else k ⟨s.cursor, t.marks⟩
      | none => if negated then k s else none
  | .again index folding, k, s =>
    match s.marks.text? index with
    | none => none
    | some text =>
      match takeText folding text s.cursor with
      | some c => k ⟨c, s.marks⟩
      | none => none
  | .whenSet index yes no, k, s =>
    if (s.marks.span? index).isSome then yes.run k s else no.run k s

/-- A match: its two ends, and the groups. -/
structure Match where
  start : Cursor
  stop : Cursor
  marks : Marks
  deriving DecidableEq

namespace Match

/-- Whether the match takes no character. -/
def isEmpty (m : Match) : Bool := m.stop.left == m.start.left

/-- The matched text. -/
def text (m : Match) : Text := m.start.upTo m.stop

/-- The text of a group, if the group took part. -/
def group? (m : Match) (index : Nat) : Option Text := m.marks.text? index

end Match

/-- The match of a node at a cursor. With `advancing`, an empty match does not count. -/
def Node.matchAt? (node : Node) (advancing : Bool) (c : Cursor) : Option Match :=
  (node.run (fun t => if advancing && t.cursor.left == c.left then none else some t)
    ⟨c, []⟩).map fun t => ⟨c, t.cursor, t.marks⟩

/-- The first match at or after a cursor; the number bounds the characters left.
With `advancing`, an empty match at the cursor itself does not count. -/
def Node.searchWithin? (node : Node) : Nat → Bool → Cursor → Option Match
  | 0, advancing, c => node.matchAt? advancing c
  | fuel + 1, advancing, c =>
    match node.matchAt? advancing c with
    | some m => some m
    | none =>
      match c.next? with
      | some (_, d) => node.searchWithin? fuel false d
      | none => none

/-- The first match at or after a cursor. -/
def Node.search? (node : Node) (advancing : Bool) (c : Cursor) : Option Match :=
  node.searchWithin? c.left advancing c

/-- The matches from a cursor on, none overlapping the one before it. After an
empty match the next one starts later or is not empty, so twice the characters
left bounds their number. -/
def Node.matchesWithin (node : Node) : Nat → Bool → Cursor → List Match
  | 0, _, _ => []
  | fuel + 1, advancing, c =>
    match node.search? advancing c with
    | none => []
    | some m => m :: node.matchesWithin fuel m.isEmpty m.stop

/-- The successive matches in a text, from left to right. -/
def Node.matchesIn (node : Node) (text : Text) : List Match :=
  node.matchesWithin (2 * text.length + 1) false (.first text)

end Retag.Regex

/-- The successive matches in a text. -/
def Retag.Regex.matchesIn (r : Retag.Regex) (text : Retag.Text) :
    List Retag.Regex.Match :=
  r.node.matchesIn text

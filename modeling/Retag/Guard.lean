import Retag.Regex.Match
import Retag.Segment

/-!
# The guard of literal text

Braces and backslashes of literal text would be read as tags by the engine once
native tags stand next to them. A guard writes a long sentinel for each such
character before the native text is put together, and puts the characters back
when the engine is done.

`restore` finds the sentinels with an expression: their alternatives, the
longest first, so that a sentinel which begins another one does not hide it. If
several characters have one sentinel, the last of them is put back.
-/

namespace Retag

open Text

/-- A table of characters and the sentinels that stand for them, each character once. -/
structure Guard where
  entries : List (Char × Text)
  deriving DecidableEq, Repr

/-- Why a table is no guard, or a text is not restored. -/
inductive GuardFault where
  /-- A key that is not one character. -/
  | keyNotCharacter
  | unknownSentinel (found : Text)
  deriving DecidableEq, Repr

/-- Replaces the value under a key, or adds the key at the end. -/
def putEntry {α β : Type} [BEq α] (key : α) (value : β) :
    List (α × β) → List (α × β)
  | [] => [(key, value)]
  | (k, v) :: rest =>
    if k == key then (k, value) :: rest else (k, v) :: putEntry key value rest

namespace Guard

/-- A guard from pairs of a key and its sentinel. A later pair replaces the
sentinel of an earlier one with the same key. -/
def ofPairs (pairs : List (Text × Text)) : Except GuardFault Guard :=
  let rec add (entries : List (Char × Text)) : List (Text × Text) →
    Except GuardFault Guard
    | [] => .ok ⟨entries⟩
    | ([c], sentinel) :: rest => add (putEntry c sentinel entries) rest
    | _ :: _ => .error .keyNotCharacter
  add [] pairs

/-- Writes the sentinels of a text's characters. -/
def protect (g : Guard) (text : Text) : Text :=
  text.flatMap fun c => (g.entries.lookup c).getD [c]

/-- The sentinels, each once, with the last character that has it. -/
def meanings (g : Guard) : List (Text × Char) :=
  g.entries.foldl (fun table entry => putEntry entry.2 entry.1 table) []

/-- The sentinels, the longest first; those of one length keep their order. -/
def sentinels (g : Guard) : List Text :=
  (g.meanings.map (·.1)).mergeSort fun a b => b.length ≤ a.length

/-- An expression for exactly one text. -/
def exactly : Text → Regex.Node
  | [] => .done
  | c :: rest => .cat (.one (.single c.toNat)) (exactly rest)

/-- An expression for one of several texts, tried in order. -/
def anyOf : List Text → Regex.Node
  | [] => .done
  | [text] => exactly text
  | text :: more => .alt (exactly text) (anyOf more)

/-- The expression that finds sentinels. -/
def finder (g : Guard) : Regex.Node := anyOf g.sentinels

/-- Whether a character of a sentinel is written with a backslash: what means
something in an expression, in a character set, or where blanks and comments are
skipped. -/
def isSign (c : Char) : Bool :=
  isMeta c || ['-', '&', '~', '#', ' ', '\t', '\n', '\r', '\x0b', '\x0c'].contains c

/-- A sentinel in the text of an expression. -/
def escapeSentinel (sentinel : Text) : Text :=
  sentinel.flatMap fun c => if isSign c then ['\\', c] else [c]

/-- The text of the expression that finds sentinels. -/
def finderText (g : Guard) : Text :=
  List.intercalate ['|'] (g.sentinels.map escapeSentinel)

/-- Replaces matches, from a cursor on. -/
def replaceFrom (replacement : Text → Except GuardFault Text) :
    Cursor → List Regex.Match → Except GuardFault Text
  | c, [] => .ok c.rest
  | c, m :: more => do
    let inserted ← replacement m.text
    return c.upTo m.start ++ inserted ++ (← replaceFrom replacement m.stop more)

/-- The character that a sentinel stands for. -/
def meaning (g : Guard) (sentinel : Text) : Except GuardFault Text :=
  match g.meanings.lookup sentinel with
  | some c => .ok [c]
  | none => .error (.unknownSentinel sentinel)

/-- Puts the characters back. -/
def restore (g : Guard) (text : Text) : Except GuardFault Text :=
  replaceFrom g.meaning (.first text) (g.finder.matchesIn text)

/-- The pieces of a text between matches, from a cursor on. -/
def withoutMatches : Cursor → List Regex.Match → Text
  | c, [] => c.rest
  | c, m :: more => c.upTo m.start ++ withoutMatches m.stop more

/-- Removes the sentinels. -/
def strip (g : Guard) (text : Text) : Text :=
  withoutMatches (.first text) (g.finder.matchesIn text)

/-- The character at both ends of the default sentinels: of the private use
area, so that neither the engine nor ordinary text gives it a meaning. -/
def bracket : Char := '\ue000'

/-- The default sentinel with a name. -/
def sentinel (name : String) : Text := bracket :: name.toList ++ [bracket]

/-- The guard of the two braces and the backslash. -/
def default : Guard :=
  ⟨[('{', sentinel "HBSDELIM_OPEN_CURLY"), ('}', sentinel "HBSDELIM_CLOSE_CURLY"),
    ('\\', sentinel "HBSDELIM_BACKSLASH")]⟩

end Guard

/-- Segments as native text whose literal parts are guarded. -/
def assemble (g : Guard) (segments : List Segment) : Except WriteFault Text :=
  Segment.writeAll g.protect [] segments

end Retag

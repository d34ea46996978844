import Retag.Value.Basic
import Retag.Decimal.Shortest
import Retag.Regex.Flags

/-!
# Printed values

A value has two texts. `Value.shown` is its text inside other values and in
messages: texts are quoted, items are separated by commas, and the brackets tell
the kind. `Value.plain` is its text by itself, which differs for texts, dates
and times. An integer with too many digits has no text, and neither has a value
that holds one: `Value.isPrintable`.
-/

namespace Retag

open Text Decimal

/-- The flags of an expression as they are shown; that of the Unicode alphabet
is the rule and is left out. Bits without a name are shown as a number. -/
def shownFlags (flags : Regex.Flags) : List String :=
  let alphabets := flags &&& Regex.Flags.alphabets
  let flags := if alphabets == 32 then flags ^^^ 32 else flags
  let named : List (String × Regex.Flags) :=
    [("re.TEMPLATE", 1), ("re.IGNORECASE", 2), ("re.LOCALE", 4), ("re.MULTILINE", 8),
      ("re.DOTALL", 16), ("re.UNICODE", 32), ("re.VERBOSE", 64), ("re.DEBUG", 128),
      ("re.ASCII", 256)]
  let names := (named.filter fun entry => flags &&& entry.2 != 0).map (·.1)
  let unnamed := flags >>> 9
  if unnamed == 0 then names
  else names ++ ["0x" ++ String.ofList (Nat.toDigits 16 (unnamed <<< 9).toNat)]

/-- An expression as it is shown: its text, cut after two hundred characters,
and its flags. -/
def shownExpression (quotedSource : String) (flags : Regex.Flags) : String :=
  let source := String.ofList (quotedSource.toList.take 200)
  match shownFlags flags with
  | [] => "re.compile(" ++ source ++ ")"
  | names => "re.compile(" ++ source ++ ", " ++ "|".intercalate names ++ ")"

/-- A marker set as it is shown. -/
def MarkerSet.shown (s : MarkerSet) : String :=
  let safe := match s.safe with
    | some pair =>
      "open_safe=" ++ pair.opening.shown ++ ", close_safe=" ++ pair.closing.shown
    | none => "open_safe=None, close_safe=None"
  "DelimiterSet(open=" ++ s.escaped.opening.shown ++ ", close="
    ++ s.escaped.closing.shown
    ++ ", " ++ safe ++ ")"

namespace Value

/-- What stands for a collection in its own text. -/
def dots : Value → String
  | .tuple _ => "(...)"
  | .dict _ => "\x7b...\x7d"
  | _ => "[...]"

mutual

/-- The text of a value inside other values. The labels are those of the
collections around it, with what stands for each. -/
def shownIn (around : List (Nat × String)) : Value → String
  | .none => "None"
  | .bool b => if b then "True" else "False"
  | .int n => toString n
  | .float x => x.text
  | .text s => quoted s
  | .bytes b => quotedBytes b
  | .list items => "[" ++ ", ".intercalate (shownItems around items) ++ "]"
  | .tuple [item] => "(" ++ shownIn around item ++ ",)"
  | .tuple items => "(" ++ ", ".intercalate (shownItems around items) ++ ")"
  | .dict entries => "\x7b" ++ ", ".intercalate (shownEntries around entries) ++ "\x7d"
  | .set [] => "set()"
  | .set items => "\x7b" ++ ", ".intercalate (shownItems around items) ++ "\x7d"
  | .expression source flags => shownExpression (quoted (String.ofList source)) flags
  | .bytesExpression source => shownExpression (quotedBytes source) 0
  | .marker m => m.shown
  | .markers s => s.shown
  | .date d => d.shown
  | .moment m => m.shown
  | .knot label collection =>
    match around.lookup label with
    | Option.some dots => dots
    | Option.none => shownIn ((label, collection.dots) :: around) collection
  | .inside label => (around.lookup label).getD "..."

/-- The texts of the items of a list. -/
def shownItems (around : List (Nat × String)) : List Value → List String
  | [] => []
  | v :: rest => shownIn around v :: shownItems around rest

/-- The texts of the entries of a mapping. -/
def shownEntries (around : List (Nat × String)) : List (Value × Value) → List String
  | [] => []
  | (k, v) :: rest =>
    (shownIn around k ++ ": " ++ shownIn around v) :: shownEntries around rest

end

/-- The text of a value inside other values and in messages. -/
def shown (value : Value) : String := shownIn [] value

/-- The text of a value by itself. -/
def plain : Value → String
  | .text s => s
  | .date d => d.text
  | .moment m => m.text
  | value => value.shown

/-- The number of digits up to which an integer has a text. -/
def maxDigits : Nat := 4300

mutual

/-- Whether a value has a text: no integer in it has too many digits. -/
def isPrintable : Value → Bool
  | .int n => decide (n.natAbs < tenTo maxDigits)
  | .list items => printableItems items
  | .tuple items => printableItems items
  | .dict entries => printableEntries entries
  | .set items => printableItems items
  | .knot _ collection => isPrintable collection
  | _ => true

/-- Whether the items of a list have texts. -/
def printableItems : List Value → Bool
  | [] => true
  | v :: rest => isPrintable v && printableItems rest

/-- Whether the entries of a mapping have texts. -/
def printableEntries : List (Value × Value) → Bool
  | [] => true
  | (k, v) :: rest => isPrintable k && isPrintable v && printableEntries rest

end

end Value

end Retag

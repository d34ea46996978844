import Retag.Mustache.Path
import Retag.Text.Letters

/-!
# Tags of a mustache template

A mustache template is plain text with tags between double braces. `Tag.readAll`
takes it apart from the left; a text that has double braces but no tag there is
no template.

White space may stand around a name and must stand between arguments. It may not
stand before the character that tells the kind of a tag, nor inside a closing tag.
-/

namespace Retag.Mustache

/-- What follows a name inside a tag. -/
inductive Argument where
  | path (path : Path)
  | value (value : Value)

/-- A piece of a mustache template. -/
inductive Tag where
  | text (text : Text)
  /-- Writes a value, as it is if `raw` and escaped otherwise. -/
  | write (raw : Bool) (path : Path) (arguments : List Argument)
  | opening (name : Text) (arguments : List Argument)
  | inverted (name : Text) (arguments : List Argument)
  /-- Separates a block's body from its alternative. -/
  | otherwise
  | closing (name : Text)
  | inclusion (name : Text)
  | comment

/-- A reader of the start of a text: what it read and the text that is left. -/
abbrev Reading (α : Type) := Text → Option (α × Text)

/-- Whether a character is white space inside a tag. -/
def isGap (c : Char) : Bool := c == ' ' || c == '\t' || c == '\r' || c == '\n'

/-- The text after white space. -/
def dropGap (text : Text) : Text := text.dropWhile isGap

/-- The text after a given beginning. -/
def afterStart? (start : Text) (text : Text) : Option Text :=
  if start.isPrefixOf text then some (text.drop start.length) else none

/-- What ends a tag. -/
def tagEnd : Text := ['}', '}']

/-- The text after white space and the end of a tag. -/
def afterEnd? (text : Text) : Option Text := afterStart? tagEnd (dropGap text)

/-- The text after the rest of a tag that separates an alternative. -/
def afterOtherwise? (text : Text) : Option Text :=
  match dropGap text with
  | '^' :: rest => afterEnd? rest
  | text => (afterStart? "else".toList text).bind afterEnd?

/-- Whether a character may stand in a name. -/
def isNameChar (c : Char) : Bool := Text.isWord c || c == '-' || c == '@'

/-- Reads a name. -/
def readName : Reading Text := fun text =>
  if (afterOtherwise? text).isSome then none
  else
    match text.takeWhile isNameChar with
    | [] => none
    | name => some (name, text.dropWhile isNameChar)

/-- The name that stands for the current value. -/
def thisName : Text := "this".toList

/-- Reads a step of a path. -/
def readStep : Reading PathStep := fun text =>
  match readName text with
  | some (name, rest) => some (if name == thisName then .here else .name name, rest)
  | none =>
    match text with
    | '/' :: rest => some (.here, rest)
    | '.' :: '.' :: '/' :: rest => some (.outside, rest)
    | '.' :: rest => some (.here, rest)
    | _ => none

/-- Reads the steps of a path, as many as there are. -/
def readSteps (text : Text) : Path × Text :=
  match readStep text with
  | none => ([], text)
  | some (first, rest) =>
    if _h : rest.length < text.length then
      let (more, last) := readSteps rest
      (first :: more, last)
    else ([first], rest)
termination_by text.length

/-- Reads a path. -/
def readPath : Reading Path := fun text =>
  match text with
  | '/' :: _ => none
  | text =>
    match readSteps text with
    | ([], _) => none
    | found => some found

/-- Reads an integer. -/
def readInteger : Reading Int := fun text =>
  let (negative, digits) := match text with
    | '-' :: rest => (true, rest)
    | text => (false, text)
  match digits.takeWhile Text.isDigit with
  | [] => none
  | run =>
    (Decimal.readInt? 10 run).map fun n =>
      (if negative then -n else n, digits.dropWhile Text.isDigit)

/-- Reads a value that is written out. -/
def readLiteral : Reading Value := fun text =>
  match text with
  | '\'' :: rest =>
    match rest.dropWhile (· != '\'') with
    | _ :: last => some (.text (String.ofList (rest.takeWhile (· != '\''))), last)
    | [] => none
  | text =>
    match readInteger text with
    | some (n, rest) => some (.int n, rest)
    | none => (afterStart? "true".toList text).map fun rest => (.bool true, rest)

/-- Reads an argument. -/
def readArgument : Reading Argument := fun text =>
  match readLiteral text with
  | some (value, rest) => some (.value value, rest)
  | none => (readPath text).map fun found => (.path found.1, found.2)

/-- Reads arguments, each after white space, as many as there are. -/
def readArguments (text : Text) : List Argument × Text :=
  match text with
  | c :: rest =>
    if isGap c then
      match readArgument (dropGap rest) with
      | some (first, after) =>
        if _h : after.length ≤ rest.length then
          let (more, last) := readArguments after
          (first :: more, last)
        else ([first], after)
      | none => ([], text)
    else ([], text)
  | [] => ([], [])
termination_by text.length

/-- Reads the rest of a tag that begins with some `α`. -/
def readInner {α : Type} (readHead : Reading α) : Reading (α × List Argument) :=
  fun text => do
  let (head, rest) ← readHead (dropGap text)
  let (arguments, rest) := readArguments rest
  return ((head, arguments), ← afterEnd? rest)

/-- Reads a tag that writes a value. -/
def readWrite (raw : Bool) : Reading Tag := fun text => do
  let ((path, arguments), rest) ← readInner readPath text
  return (.write raw path arguments, rest)

/-- The text after the next end of a tag. -/
def afterComment? : Text → Option Text
  | [] => none
  | '}' :: '}' :: rest => some rest
  | _ :: rest => afterComment? rest

/-- Reads the rest of a tag, after the two braces. -/
def readTag : Reading Tag
  | '#' :: text => do
    let ((name, arguments), rest) ← readInner readName text
    return (.opening name arguments, rest)
  | '^' :: text =>
    match afterEnd? text with
    | some rest => some (.otherwise, rest)
    | none => do
      let ((name, arguments), rest) ← readInner readName text
      return (.inverted name arguments, rest)
  | '/' :: text => do
    let (name, rest) ← readName text
    return (.closing name, ← afterStart? tagEnd rest)
  | '!' :: text => (afterComment? text).map fun rest => (.comment, rest)
  | '>' :: text => do
    let ((name, arguments), rest) ← readInner readName text
    if arguments.isEmpty then return (.inclusion name, rest) else none
  | '{' :: text => do
    let (tag, rest) ← readWrite true text
    return (tag, ← afterStart? ['}'] rest)
  | '&' :: text => readWrite true text
  | text =>
    match afterOtherwise? text with
    | some rest => some (.otherwise, rest)
    | none => readWrite false text

/-- The text before the next tag, and the text from there. -/
def spanText : Text → Text × Text
  | '{' :: '{' :: rest => ([], '{' :: '{' :: rest)
  | c :: rest => (c :: (spanText rest).1, (spanText rest).2)
  | [] => ([], [])

/-- The pieces of a template; none if it is no template. -/
def Tag.readAll (text : Text) : Option (List Tag) :=
  match text with
  | [] => some []
  | '{' :: '{' :: inner => do
    let (tag, rest) ← readTag inner
    if _h : rest.length ≤ inner.length then return tag :: (← Tag.readAll rest)
    else none
  | text => do
    let (plain, rest) := spanText text
    if _h : rest.length < text.length then return .text plain :: (← Tag.readAll rest)
    else none
termination_by text.length

end Retag.Mustache

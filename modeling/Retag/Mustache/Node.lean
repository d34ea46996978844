import Retag.Mustache.Tag

/-!
# Mustache templates

The tags of a template nest: a block has a body, and a block that is not
inverted may have an alternative. `Node.ofTags?` nests the tags; it fails if a
closing tag has no block, names another block, or is missing.
-/

namespace Retag.Mustache

/-- A piece of a template. -/
inductive Node where
  | text (text : Text)
  | write (raw : Bool) (path : Path) (arguments : List Argument)
  /-- A block with its body and its alternative. -/
  | block (name : Text) (arguments : List Argument) (body otherwise : List Node)
  | inverted (name : Text) (body : List Node)
  | inclusion (name : Text)

/-- A block whose closing tag was not read yet. -/
structure OpenBlock where
  name : Text
  arguments : List Argument
  isInverted : Bool
  /-- The body, once the alternative has begun. -/
  body : Option (List Node)
  /-- What stands before the block, the last piece first. -/
  before : List Node

/-- The block, given the last of its two parts. -/
def OpenBlock.close (b : OpenBlock) (last : List Node) : Node :=
  if b.isInverted then .inverted b.name last
  else
    match b.body with
    | some body => .block b.name b.arguments body last
    | none => .block b.name b.arguments last []

/-- Nests tags, given the open blocks, the innermost first, and the pieces since
the last of them began, the last piece first. -/
def nest : List Tag → List OpenBlock → List Node → Option (List Node)
  | [], [], pieces => some pieces.reverse
  | [], _ :: _, _ => none
  | .text text :: rest, stack, pieces => nest rest stack (.text text :: pieces)
  | .write raw path arguments :: rest, stack, pieces =>
    nest rest stack (.write raw path arguments :: pieces)
  | .inclusion name :: rest, stack, pieces =>
    nest rest stack (.inclusion name :: pieces)
  | .comment :: rest, stack, pieces => nest rest stack pieces
  | .opening name arguments :: rest, stack, pieces =>
    nest rest (⟨name, arguments, false, none, pieces⟩ :: stack) []
  | .inverted name arguments :: rest, stack, pieces =>
    nest rest (⟨name, arguments, true, none, pieces⟩ :: stack) []
  | .otherwise :: rest, b :: stack, pieces =>
    if b.isInverted || b.body.isSome then none
    else nest rest ({ b with body := some pieces.reverse } :: stack) []
  | .otherwise :: _, [], _ => none
  | .closing name :: rest, b :: stack, pieces =>
    if b.name == name then nest rest stack (b.close pieces.reverse :: b.before)
    else none
  | .closing _ :: _, [], _ => none

/-- The template that tags make, if they nest. -/
def Node.ofTags? (tags : List Tag) : Option (List Node) := nest tags [] []

/-- The template that a text is. -/
def Node.read? (text : Text) : Option (List Node) :=
  (Tag.readAll text).bind Node.ofTags?

end Retag.Mustache

import Retag.Value.Printed
import Retag.Decimal.Reading

/-!
# Contexts and paths

A mustache template is rendered in a context. Inside a loop the context is one
item of a list and knows its place in the loop and the context outside. A path
leads from a context to a value, one step after the other; a step that leads
nowhere gives the absent value, and so does every step from there.
-/

namespace Retag.Mustache

/-- A context. -/
inductive Context where
  | plain (value : Value)
  | item (value : Value) (index : Nat) (isLast : Bool) (key : Value) (outside : Context)
  deriving Inhabited

/-- The value of a context. -/
def Context.value : Context → Value
  | .plain value => value
  | .item value .. => value

/-- A step of a path. -/
inductive PathStep where
  | here
  | outside
  | name (name : Text)
  deriving DecidableEq, Repr

/-- A path. -/
abbrev Path := List PathStep

/-- The item of a list at an index; a negative index counts from the end. -/
def itemAt (items : List Value) (index : Int) : Value :=
  match index with
  | .ofNat i => items.getD i .none
  | .negSucc i =>
    if i < items.length then items.getD (items.length - 1 - i) .none else .none

/-- The value under a name in a list. -/
def nameInList (items : List Value) (name : Text) : Value :=
  if name == "length".toList then .int items.length
  else
    match Decimal.readInt? 10 name with
    | some index => itemAt items index
    | none => .none

/-- The value under a name in a mapping. -/
def nameInEntries (entries : List (Value × Value)) (name : Text) : Value :=
  (Value.field? entries (String.ofList name)).getD .none

/-- The value under a name in a value. -/
def nameIn : Value → Text → Value
  | .list items, name => nameInList items name
  | .tuple items, name => nameInList items name
  | .dict entries, name => nameInEntries entries name
  | _, _ => .none

namespace Context

/-- The value under a name in a context. -/
def named : Context → Text → Value
  | .plain value, name => nameIn value name
  | .item value index isLast key _, name =>
    if name == "@index".toList then .int index
    else if name == "@first".toList then .bool (index == 0)
    else if name == "@last".toList then .bool isLast
    else if name == "@key".toList then key
    else
      match value with
      | .dict entries => nameInEntries entries name
      | _ => .none

/-- One step of a path. -/
def step : Context → PathStep → Context
  | c, .here => c
  | .item _ _ _ _ outside, .outside => outside
  | .plain _, .outside => .plain .none
  | c, .name name => .plain (c.named name)

/-- The value that a path leads to. -/
def find (c : Context) (path : Path) : Value := (path.foldl step c).value

end Context

end Retag.Mustache

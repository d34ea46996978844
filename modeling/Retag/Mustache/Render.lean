import Retag.Mustache.Node
import Retag.Mustache.Helper

/-!
# Rendering of mustache templates

`renderAll` renders a template in a context. Values are written escaped for
HTML, or as they are where the tag says so. Templates that are inserted by name
are rendered by functions that the caller supplies; the names that were inserted
are listed, so that the caller knows which of them were used.
-/

namespace Retag.Mustache

/-- A rendering lists the names it inserts, and answers or fails. -/
abbrev Rendering := ExceptT Failure (StateM (List String))

/-- A template that can be inserted. -/
abbrev Inclusion := Context → Rendering Text

/-- What a rendering may call. -/
structure Library where
  helpers : List Helper
  /-- The templates that can be inserted, by name. -/
  inclusions : List (String × Inclusion)

namespace Library

/-- The helper with a name, if the library has it. -/
def helper? (l : Library) (name : Text) : Option Helper :=
  match Helper.ofName? (String.ofList name) with
  | some helper => if l.helpers.contains helper then some helper else none
  | none => none

end Library

/-- A character in escaped output. -/
def escapeHtmlChar : Char → Text
  | '&' => "&amp;".toList
  | '"' => "&quot;".toList
  | '\'' => "&#x27;".toList
  | '`' => "&#x60;".toList
  | '<' => "&lt;".toList
  | '>' => "&gt;".toList
  | c => [c]

/-- A text escaped for HTML. -/
def escapeHtml (text : Text) : Text := text.flatMap escapeHtmlChar

/-- A value as it is written. -/
def written : Value → Text
  | .none => []
  | .bool b => if b then "true".toList else "false".toList
  | value => value.plain.toList

/-- The value of an argument. -/
def Argument.eval (c : Context) : Argument → Value
  | .path steps => c.find steps
  | .value v => v

/-- The value that a tag writes. A name alone may be a helper's; a name that is
nothing may not have arguments. -/
def valueOf (l : Library) (c : Context) (path : Path) (arguments : List Argument) :
    Except Failure Value :=
  let helper := match path with
    | [.name name] => l.helper? name
    | _ => none
  match helper with
  | some helper => helper.apply (arguments.map (Argument.eval c))
  | none =>
    match c.find path with
    | .none => if arguments.isEmpty then .ok .none else .error (.engine .mustache)
    | value => .ok value

/-- The contexts of a loop over values with their keys. -/
def loopContexts (outside : Context) (items : List (Value × Value)) : List Context :=
  items.mapIdx fun index entry =>
    .item entry.2 index (index + 1 == items.length) entry.1 outside

/-- The items of a value that can be looped over, with their keys. -/
def loopItems : Value → List (Value × Value)
  | .list items => items.map fun v => (.none, v)
  | .tuple items => items.map fun v => (.none, v)
  | .dict entries => entries
  | .text s => s.toList.map fun c => (.none, .text (String.singleton c))
  | _ => []

/-- Renders in one context after the other. -/
def renderEach (render : Context → Rendering Text) : List Context → Rendering Text
  | [] => return []
  | c :: rest => do
    let text ← render c
    return text ++ (← renderEach render rest)

/-- Inserts a template. -/
def insert (l : Library) (name : String) (c : Context) : Rendering Text :=
  match l.inclusions.lookup name with
  | none => throw (.engine .mustache)
  | some inclusion => do
    modify (· ++ [name])
    inclusion c

/-- The blocks that every template can use. -/
inductive BlockKind where
  /-- The body for each item of a list. -/
  | each
  /-- The body if a value counts as true, and the alternative otherwise. -/
  | when
  /-- The body unless a value counts as true, and the alternative otherwise. -/
  | unless
  /-- The body in the context of a value. -/
  | inside
  deriving DecidableEq, Repr

/-- The kind of block with a name. -/
def BlockKind.ofName? (name : Text) : Option BlockKind :=
  match String.ofList name with
  | "each" => some .each
  | "if" => some .when
  | "unless" => some .unless
  | "with" => some .inside
  | _ => none

/-- A block of a kind, given how its two parts are rendered. -/
def renderKind (kind : BlockKind) (value : Value) (c : Context)
    (body otherwise : Context → Rendering Text) : Rendering Text :=
  match kind with
  | .each =>
    match loopItems value with
    | [] => otherwise c
    | items => renderEach body (loopContexts c items)
  | .when => if value.truthy then body c else otherwise c
  | .unless => if value.truthy then otherwise c else body c
  | .inside => body (.plain value)

/-- A section: a loop over a list, the body in the same context for the truth,
in the context of the value if that counts as true, and the alternative otherwise. -/
def renderSection (value : Value) (c : Context)
    (body otherwise : Context → Rendering Text) :
    Rendering Text :=
  if !value.truthy then otherwise c
  else
    match value with
    | .list _ | .tuple _ => renderKind .each value c body otherwise
    | .bool _ => body c
    | value => body (.plain value)

/-- A block, given how its two parts are rendered. -/
def renderBlock (l : Library) (name : Text) (arguments : List Argument) (c : Context)
    (body otherwise : Context → Rendering Text) : Rendering Text :=
  match l.helper? name with
  | some helper => do
    let text ← body c
    ExceptT.mk (pure (helper.applyBlock text))
  | none =>
    match BlockKind.ofName? name, arguments with
    | some kind, [argument] => renderKind kind (argument.eval c) c body otherwise
    | some _, _ => throw (.engine .mustache)
    | none, _ => renderSection (c.find [.name name]) c body otherwise

mutual

/-- Renders one piece of a template. -/
def render (l : Library) : Node → Context → Rendering Text
  | .text text, _ => return text
  | .write raw path arguments, c => do
    let value ← ExceptT.mk (pure (valueOf l c path arguments))
    return if raw then written value else escapeHtml (written value)
  | .block name arguments body otherwise, c =>
    renderBlock l name arguments c (fun d => renderAll l body d)
      (fun d => renderAll l otherwise d)
  | .inverted name body, c =>
    if (c.find [.name name]).truthy then return [] else renderAll l body c
  | .inclusion name, c => insert l (String.ofList name) c

/-- Renders a template. -/
def renderAll (l : Library) : List Node → Context → Rendering Text
  | [], _ => return []
  | node :: rest, c => do
    let text ← render l node c
    return text ++ (← renderAll l rest c)

end

end Retag.Mustache

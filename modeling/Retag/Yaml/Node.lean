import Retag.Yaml.Tokens
import Retag.Yaml.PlainScalar

/-!
# Nodes of a YAML document

`Node.ofTokens` reads the one document of a text. A reference to an anchor is
replaced by the node that has the anchor. Inside that node itself this cannot be
done: there the reference is a label, and the node, like every collection
between the two, is a knot with a label of its own.
-/

namespace Retag.Yaml

/-- A node. -/
inductive Node where
  | scalar (tag : Tag) (text : Text)
  | sequence (tag : Tag) (items : List Node)
  | mapping (tag : Tag) (entries : List (Node × Node))
  /-- A collection that occurs in itself. -/
  | knot (label : Nat) (collection : Node)
  /-- The collection around this place that has the label. -/
  | inside (label : Nat) (isMapping : Bool)
  deriving Repr, Inhabited

namespace Node

mutual

/-- Whether a label in a node stands for a collection around the node. -/
def isOpen (known : List Nat) : Node → Bool
  | .scalar .. => false
  | .sequence _ items => openItems known items
  | .mapping _ entries => openEntries known entries
  | .knot label collection => isOpen (label :: known) collection
  | .inside label _ => !known.contains label

/-- Whether a label in some items stands for a collection around them. -/
def openItems (known : List Nat) : List Node → Bool
  | [] => false
  | item :: rest => isOpen known item || openItems known rest

/-- Whether a label in some entries stands for a collection around them. -/
def openEntries (known : List Nat) : List (Node × Node) → Bool
  | [] => false
  | (key, value) :: rest =>
    isOpen known key || isOpen known value || openEntries known rest

end

/-- A collection that was read, with a label if it occurs in itself. -/
def tied (label : Nat) (collection : Node) : Node :=
  if collection.isOpen [] then .knot label collection else collection

mutual

/-- Puts a node for a label. -/
def close (label : Nat) (whole : Node) : Node → Node
  | .scalar tag text => .scalar tag text
  | .sequence tag items => .sequence tag (closeItems label whole items)
  | .mapping tag entries => .mapping tag (closeEntries label whole entries)
  | .knot other collection =>
    if other == label then .knot other collection
    else .knot other (close label whole collection)
  | .inside other isMapping => if other == label then whole else .inside other isMapping

/-- Puts a node for a label in some items. -/
def closeItems (label : Nat) (whole : Node) : List Node → List Node
  | [] => []
  | item :: rest => close label whole item :: closeItems label whole rest

/-- Puts a node for a label in some entries. -/
def closeEntries (label : Nat) (whole : Node) :
    List (Node × Node) → List (Node × Node)
  | [] => []
  | (key, value) :: rest =>
    (close label whole key, close label whole value) :: closeEntries label whole rest

end

/-- A node that is looked into: a knot is untied, once. -/
def untied : Node → Node
  | .knot label collection => close label (.knot label collection) collection
  | node => node

end Node

/-- What is known while a document is read. -/
structure Reading where
  rest : List Token
  anchors : List (Text × Node)
  handles : List (Text × Text)

/-- Computations that read on or fail. -/
abbrev Compose := StateT Reading Option

namespace Compose

/-- The next token. -/
def peek : Compose Token := do return (← get).rest.headD .streamEnd

/-- Skips the next token. -/
def advance : Compose Unit := modify fun s => { s with rest := s.rest.tail }

/-- Skips a token if it is next. -/
def accept (t : Token) : Compose Bool := do
  if (← peek) == t then
    advance
    return true
  else return false

/-- Requires a token next. -/
def expect (t : Token) : Compose Unit := do unless ← accept t do failure

/-- The empty scalar. -/
def emptyScalar : Node := .scalar (.core .null) []

/-- An anchor and a tag, in either order. -/
def properties : Compose (Option Text × Option WrittenTag) := do
  match ← peek with
  | .anchor name =>
    advance
    match ← peek with
    | .tag tag =>
      advance
      return (some name, some tag)
    | _ => return (some name, none)
  | .tag tag =>
    advance
    match ← peek with
    | .anchor name =>
      advance
      return (some name, some tag)
    | _ => return (none, some tag)
  | _ => return (none, none)

/-- The full name of a tag. -/
def tagName (tag : WrittenTag) : Compose Text := do
  match tag.handle with
  | none => return tag.suffix
  | some handle =>
    match (← get).handles.lookup handle with
    | some start => return start ++ tag.suffix
    | none => failure

/-- The tag of a scalar. Without a tag of its own, a plain scalar has one by its
form. -/
def scalarTag (name : Option Text) (text : Text) (plain : Bool) : Tag :=
  match name with
  | none => .core (if plain then .ofPlain text else .str)
  | some ['!'] => .core (.ofPlain text)
  | some name => .ofName name

/-- The tag of a collection. -/
def collectionTag (name : Option Text) (default : CoreTag) : Tag :=
  match name with
  | none => .core default
  | some ['!'] => .core default
  | some name => .ofName name

/-- Gives a node its anchor. -/
def setAnchor (anchor : Option Text) (node : Node) : Compose Unit :=
  match anchor with
  | none => return ()
  | some name => modify fun s => { s with anchors := (name, node) :: s.anchors }

/-- Reads a collection. Its label is even and counts the tokens from its start,
so no other collection has it. References to its anchor inside it are the label,
also in what else has an anchor there. -/
def anchored (anchor : Option Text) (isMapping : Bool) (collection : Compose Node) :
    Compose Node := do
  let label := 2 * (← get).rest.length
  setAnchor anchor (.inside label isMapping)
  let node := (← collection).tied label
  modify fun s =>
    { s with
      anchors := s.anchors.map fun entry => (entry.1, Node.close label node entry.2) }
  setAnchor anchor node
  return node

/-- Whether a token is one of some. -/
def isOneOf (t : Token) (ts : List Token) : Bool := ts.contains t

mutual

/-- A node. Collections of lines are allowed in a `block`, and those without
indentation of their own if `indentless`. -/
def node : Nat → Bool → Bool → Compose Node
  | 0, _, _ => failure
  | depth + 1, block, indentless => do
    if let .alias name := ← peek then
      advance
      match (← get).anchors.lookup name with
      | some node => return node
      | none => failure
    let (anchor, written) ← properties
    let name ← match written with
      | none => pure none
      | some tag => do pure (some (← tagName tag))
    if let some name := anchor then
      if ((← get).anchors.lookup name).isSome then failure
    match ← peek with
    | .blockEntry =>
      if indentless then
        anchored anchor false do
          return .sequence (collectionTag name .seq) (← indentlessItems depth)
      else emptyNode anchor name
    | .scalar text plain =>
      advance
      let scalar := Node.scalar (scalarTag name text plain) text
      setAnchor anchor scalar
      return scalar
    | .flowSequenceStart =>
      advance
      anchored anchor false do
        return .sequence (collectionTag name .seq) (← flowItems depth true)
    | .flowMappingStart =>
      advance
      anchored anchor true do
        return .mapping (collectionTag name .map) (← flowEntries depth true)
    | .blockSequenceStart =>
      if block then
        advance
        anchored anchor false do
          return .sequence (collectionTag name .seq) (← blockItems depth)
      else emptyNode anchor name
    | .blockMappingStart =>
      if block then
        advance
        anchored anchor true do
          return .mapping (collectionTag name .map) (← blockEntries depth)
      else emptyNode anchor name
    | _ => emptyNode anchor name

/-- A node that consists of an anchor or a tag alone. -/
def emptyNode (anchor name : Option Text) : Compose Node := do
  if anchor.isNone && name.isNone then failure
  let tag : Tag := match name with
    | none => .core .null
    | some ['!'] => .core .null
    | some name => .ofName name
  let node := Node.scalar tag []
  setAnchor anchor node
  return node

/-- A node, or the empty scalar if one of the given tokens is next. -/
def nodeUnless : Nat → Bool → Bool → List Token → Compose Node
  | 0, _, _, _ => failure
  | depth + 1, block, indentless, stops => do
    if isOneOf (← peek) stops then return emptyScalar
    node depth block indentless

/-- The items of a sequence of lines. -/
def blockItems : Nat → Compose (List Node)
  | 0 => failure
  | depth + 1 => do
    if ← accept .blockEntry then
      let item ← nodeUnless depth true false [.blockEntry, .blockEnd]
      return item :: (← blockItems depth)
    else
      expect .blockEnd
      return []

/-- The items of a sequence without indentation of its own. -/
def indentlessItems : Nat → Compose (List Node)
  | 0 => failure
  | depth + 1 => do
    if ← accept .blockEntry then
      let item ← nodeUnless depth true false [.blockEntry, .key, .value, .blockEnd]
      return item :: (← indentlessItems depth)
    else return []

/-- The entries of a mapping of lines. -/
def blockEntries : Nat → Compose (List (Node × Node))
  | 0 => failure
  | depth + 1 => do
    if ← accept .key then
      let key ← nodeUnless depth true true [.key, .value, .blockEnd]
      let value ← if ←
        accept .value then nodeUnless depth true true [.key, .value, .blockEnd]
        else pure emptyScalar
      return (key, value) :: (← blockEntries depth)
    else
      expect .blockEnd
      return []

/-- The items of a sequence in brackets; all but the `first` follow a comma. -/
def flowItems : Nat → Bool → Compose (List Node)
  | 0, _ => failure
  | depth + 1, first => do
    if ← accept .flowSequenceEnd then return []
    unless first do expect .flowEntry
    if ← accept .key then
      let pair ← anchored none true do
        let key ← nodeUnless depth false false [.value, .flowEntry, .flowSequenceEnd]
        let value ← if ← accept .value then
            nodeUnless depth false false [.flowEntry, .flowSequenceEnd]
          else pure emptyScalar
        return .mapping (.core .map) [(key, value)]
      return pair :: (← flowItems depth false)
    else if ← accept .flowSequenceEnd then return []
    else
      let item ← node depth false false
      return item :: (← flowItems depth false)

/-- The entries of a mapping in braces; all but the `first` follow a comma. -/
def flowEntries : Nat → Bool → Compose (List (Node × Node))
  | 0, _ => failure
  | depth + 1, first => do
    if ← accept .flowMappingEnd then return []
    unless first do expect .flowEntry
    if ← accept .key then
      let key ← nodeUnless depth false false [.value, .flowEntry, .flowMappingEnd]
      let value ← if ← accept .value then
          nodeUnless depth false false [.flowEntry, .flowMappingEnd]
        else pure emptyScalar
      return (key, value) :: (← flowEntries depth false)
    else if ← accept .flowMappingEnd then return []
    else
      let key ← node depth false false
      return (key, emptyScalar) :: (← flowEntries depth false)

end

/-- The tag handles that need no directive. -/
def defaultHandles : List (Text × Text) := [(['!'], ['!']), (['!', '!'], corePrefix)]

/-- The directives before a document: whether the version was given, and the tag
handles. -/
def directives : Nat → Bool → List (Text × Text) → Compose (List (Text × Text))
  | 0, _, _ => failure
  | n + 1, versioned, handles => do
    match ← peek with
    | .versionDirective major =>
      if versioned || major != 1 then failure
      advance
      directives n true handles
    | .tagDirective handle start =>
      if (handles.lookup handle).isSome then failure
      advance
      directives n versioned ((handle, start) :: handles)
    | .otherDirective =>
      advance
      directives n versioned handles
    | _ => return handles

/-- Skips the marks that end a document. -/
def skipEnds : Nat → Compose Unit
  | 0 => return ()
  | n + 1 => do if ← accept .documentEnd then skipEnds n

/-- Whether a token is a directive. -/
def isDirective : Token → Bool
  | .versionDirective _ => true
  | .tagDirective .. => true
  | .otherDirective => true
  | _ => false

/-- The document of a text; an empty text has none. Nothing may follow the document. -/
def document (size : Nat) : Compose (Option Node) := do
  let first ← peek
  if first == .streamEnd then return none
  let root ← if isDirective first || first == .documentStart then do
      let handles ← directives size false []
      modify fun s => { s with handles := handles ++ defaultHandles }
      expect .documentStart
      let next ← peek
      if isDirective next
        || isOneOf next [.documentStart, .documentEnd, .streamEnd] then
        pure emptyScalar
      else node size true false
    else node size true false
  skipEnds size
  expect .streamEnd
  return some root

end Compose

/-- Reads the document of a list of tokens. -/
def Node.ofTokens (tokens : List Token) : Except Fault (Option Node) :=
  let size := 4 * tokens.length + 8
  match (Compose.document size).run ⟨tokens, [], Compose.defaultHandles⟩ with
  | some (root, _) => .ok root
  | none => .error .malformed

end Retag.Yaml

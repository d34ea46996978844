import Retag.Yaml.Node
import Retag.Value.Basic

/-!
# Values of YAML documents

`Yaml.read` reads a YAML text and yields the value it denotes.

Mappings are first completed with the entries that their merge keys ask for
(`Node.flatten`). Then `Node.build` builds the value and lists what keeps nodes
from denoting values, with the depth of each fault: the contents of a collection
are looked at after all nodes that lie less deep, so the fault that is told is
the first among those of the least depth.
-/

namespace Retag.Yaml

open Retag.Decimal

/-! ## Merging -/

/-- Whether a node is the key that merges other mappings in. -/
def Node.isMergeKey : Node → Bool
  | .scalar (.core .merge) _ => true
  | _ => false

/-- A key as it counts: the key of a mapping's default is a text. -/
def Node.asKey : Node → Node
  | .scalar (.core .value) text => .scalar (.core .str) text
  | node => node

/-- A node that denotes nothing. -/
def Node.meaningless : Node := .scalar (.other []) []

/-- The entries of a mapping. A mapping around the node itself adds none. -/
def Node.entries? (node : Node) : Option (List (Node × Node)) :=
  match node.untied with
  | .mapping _ entries => some entries
  | .inside _ true => some []
  | _ => none

/-- The entries that a completed value merges in: those of a mapping, or of the
mappings of a list, the last mapping first. -/
def Node.merged? (node : Node) : Option (List (Node × Node)) :=
  match node.untied with
  | .sequence _ items => do
    let lists ← items.mapM Node.entries?
    return lists.reverse.flatten
  | node => node.entries?

/-- Entries with those that they merge in before them; nothing if a value cannot
be merged in. -/
def mergeEntries? (entries : List (Node × Node)) : Option (List (Node × Node)) := do
  let merged ← (entries.filter (·.1.isMergeKey)).mapM fun entry => entry.2.merged?
  return merged.flatten
    ++ (entries.filter fun entry => !entry.1.isMergeKey).map fun entry =>
      (entry.1.asKey, entry.2)

/-- Whether the mappings with a tag are completed. -/
def Tag.merges : Tag → Bool
  | .core .map => true
  | .core .set => true
  | _ => false

/-- A mapping with its completed entries. -/
def Node.complete (tag : Tag) (entries : List (Node × Node)) : Node :=
  if tag.merges then
    .mapping tag ((mergeEntries? entries).getD [(.meaningless, .meaningless)])
  else .mapping tag entries

mutual

/-- A node in which all mappings are completed. -/
def Node.flatten : Node → Node
  | .sequence tag items => .sequence tag (flattenItems items)
  | .mapping tag entries => .complete tag (flattenEntries entries)
  | .knot label collection => .knot label collection.flatten
  | node => node

/-- Completed items. -/
def flattenItems : List Node → List Node
  | [] => []
  | item :: rest => item.flatten :: flattenItems rest

/-- Completed entries. -/
def flattenEntries : List (Node × Node) → List (Node × Node)
  | [] => []
  | (key, value) :: rest => (key.flatten, value.flatten) :: flattenEntries rest

end

/-! ## Scalars -/

mutual

/-- The text of a scalar; a mapping with a default stands for the default. -/
def Node.scalarText? : Node → Option Text
  | .scalar _ text => some text
  | .mapping _ entries => defaultText? entries
  | .knot _ collection => collection.scalarText?
  | _ => none

/-- The text of the entry whose key asks for the default. -/
def defaultText? : List (Node × Node) → Option Text
  | [] => none
  | (.scalar (.core .value) _, value) :: _ => value.scalarText?
  | _ :: rest => defaultText? rest

end

/-- Whether a tag is that of a collection. -/
def CoreTag.isCollection : CoreTag → Bool
  | .seq | .map | .set | .omap | .pairs => true
  | _ => false

/-- The value of a scalar with a tag that is understood. -/
def CoreTag.read (tag : CoreTag) (text : Text) : Except Fault Value :=
  match tag with
  | .str => .ok (.text (String.ofList text))
  | .null => .ok .none
  | .bool => (readBool text).map .bool
  | .int => (readInteger text).map .int
  | .float => (readFloat text).map .float
  | .binary => (readBytes text).map .bytes
  | .timestamp => (readTimestamp text).map fun
    | .inl date => .date date
    | .inr moment => .moment moment
  | _ => .error .malformed

/-! ## Building -/

/-- A value, and the faults found on the way with their depths. -/
structure Built where
  /-- The value; without meaning where there is a fault. -/
  value : Value
  faults : List (Nat × Fault)

/-- A node that denotes nothing, at a depth. -/
def Built.fault (depth : Nat) (fault : Fault) : Built := ⟨.none, [(depth, fault)]⟩

/-- The value of a scalar at a depth. -/
def buildScalar (depth : Nat) (tag : Tag) (text : Option Text) : Built :=
  match tag, text with
  | .core tag, some text =>
    match tag.read text with
    | .ok value => ⟨value, []⟩
    | .error fault => .fault depth fault
  | _, _ => .fault depth .malformed

/-- A mapping or a set, from its entries at a depth. -/
def asMapping (tag : CoreTag) (depth : Nat) (entries : List (Value × Value))
    (faults : List (Nat × Fault)) : Built :=
  match tag with
  | .map => ⟨.ofEntries entries, faults⟩
  | .set =>
    match Value.ofEntries entries with
    | .dict entries => ⟨.set (entries.map (·.1)), faults⟩
    | _ => .fault depth .malformed
  | _ => .fault depth .malformed

mutual

/-- The value of a completed node at a depth. -/
def Node.build (depth : Nat) : Node → Built
  | .scalar tag text =>
    match tag with
    | .core core =>
      if core.isCollection then .fault (depth + 1) .malformed
      else buildScalar depth tag (some text)
    | _ => .fault depth .malformed
  | .sequence tag items =>
    match tag with
    | .core .seq =>
      let (values, faults) := buildItems (depth + 1) items
      ⟨.list values, faults⟩
    | .core .omap | .core .pairs =>
      let (values, faults) := buildPairs (depth + 1) items
      ⟨.list values, faults⟩
    | .core core => .fault (if core.isCollection then depth + 1 else depth) .malformed
    | _ => .fault depth .malformed
  | .mapping tag entries =>
    match tag with
    | .core .map =>
      let (values, faults) := buildEntries (depth + 1) entries
      asMapping .map (depth + 1) values faults
    | .core .set =>
      let (values, faults) := buildEntries (depth + 1) entries
      asMapping .set (depth + 1) values faults
    | .core core =>
      if core.isCollection then .fault (depth + 1) .malformed
      else buildScalar depth tag (defaultText? entries)
    | _ => .fault depth .malformed
  | .knot label collection =>
    let built := collection.build depth
    ⟨built.value.tied label, built.faults⟩
  | .inside label _ => ⟨.inside label, []⟩

/-- The values of items. -/
def buildItems (depth : Nat) : List Node → List Value × List (Nat × Fault)
  | [] => ([], [])
  | item :: rest =>
    let built := item.build depth
    let (values, faults) := buildItems depth rest
    (built.value :: values, built.faults ++ faults)

/-- The values of entries. A key must be able to be one. -/
def buildEntries (depth : Nat) :
    List (Node × Node) → List (Value × Value) × List (Nat × Fault)
  | [] => ([], [])
  | (key, value) :: rest =>
    let builtKey := key.build depth
    let unusable :=
      if builtKey.value.unhashable?.isSome then [(depth, Fault.malformed)] else []
    let built := value.build depth
    let (values, faults) := buildEntries depth rest
    ((builtKey.value, built.value) :: values,
      builtKey.faults ++ unusable ++ built.faults ++ faults)

/-- The values of items that are mappings of one entry. The pair that is made of
such a mapping is another value than the mapping, so its label is another one, too. -/
def buildPairs (depth : Nat) : List Node → List Value × List (Nat × Fault)
  | [] => ([], [])
  | .mapping _ [(key, value)] :: rest =>
    let builtKey := key.build depth
    let built := value.build depth
    let (values, faults) := buildPairs depth rest
    (.tuple [builtKey.value, built.value] :: values,
      builtKey.faults ++ built.faults ++ faults)
  | .knot label (.mapping _ [(key, value)]) :: rest =>
    let builtKey := key.build depth
    let built := value.build depth
    let whole := Value.knot label (.dict [(builtKey.value, built.value)])
    let (values, faults) := buildPairs depth rest
    let pair := Value.tuple [builtKey.value, Value.close label whole built.value]
    (.knot (label + 1) pair :: values,
      builtKey.faults ++ built.faults ++ faults)
  | _ :: rest =>
    let (values, faults) := buildPairs depth rest
    (values, (depth, Fault.malformed) :: faults)

end

/-- The first fault of the least depth. -/
def firstFault : List (Nat × Fault) → Option Fault
  | [] => none
  | first :: rest =>
    some (rest.foldl (fun best next => if next.1 < best.1 then next else best) first).2

/-- The value of a document. -/
def Node.value (root : Node) : Except Fault Value :=
  let built := root.flatten.build 0
  match firstFault built.faults with
  | some fault => .error fault
  | none => .ok built.value

/-- The value that a YAML text denotes; an empty text denotes the absent value. -/
def read (text : Text) : Except Fault Value := do
  match ← Node.ofTokens (← tokens text) with
  | some root => root.value
  | none => return .none

end Retag.Yaml

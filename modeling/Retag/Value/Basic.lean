import Retag.Marker.Basic
import Retag.Regex.Flags
import Retag.Decimal.Double
import Retag.Value.Moment

/-!
# Values

Configurations, template contexts and the fields of log events hold values of
any kind, so there is one type for them. A value has a kind, whose name appears
in messages, it counts as true or false in a condition, and it may be the key of
a mapping.

Two numbers that are equal are the same key, whether they are integers,
floating-point numbers or truth values; `Value.key` is the common form of such keys.

A collection may occur in itself. Such a collection is a knot with a label, and
inside it the label stands for it. `Value.untied` gives the collection with the
knot in these places, so that whoever looks into it comes to values that are
complete. One label stands for one collection everywhere.
-/

namespace Retag

open Decimal

/-- A value. -/
inductive Value where
  | none
  | bool (b : Bool)
  | int (n : Int)
  | float (x : Double)
  | text (s : String)
  | bytes (b : List UInt8)
  | list (items : List Value)
  | tuple (items : List Value)
  /-- A mapping, in the order of its keys' first insertion. -/
  | dict (entries : List (Value × Value))
  /-- A set, in the order in which it is gone through. -/
  | set (items : List Value)
  /-- A compiled expression on text, with its flags. -/
  | expression (source : Text) (flags : Regex.Flags)
  | bytesExpression (source : List UInt8)
  | marker (m : Marker)
  | markers (s : MarkerSet)
  | date (d : Date)
  | moment (m : Moment)
  /-- A collection that occurs in itself. -/
  | knot (label : Nat) (collection : Value)
  /-- The collection around this place that has the label. -/
  | inside (label : Nat)
  deriving Inhabited

namespace Value

/-! ## Collections that occur in themselves -/

mutual

/-- Puts a value for a label. -/
def close (label : Nat) (whole : Value) : Value → Value
  | .inside other => if other == label then whole else .inside other
  | .knot other collection =>
    if other == label then .knot other collection
    else .knot other (close label whole collection)
  | .list items => .list (closeItems label whole items)
  | .tuple items => .tuple (closeItems label whole items)
  | .dict entries => .dict (closeEntries label whole entries)
  | value => value

/-- Puts a value for a label in the items of a list. -/
def closeItems (label : Nat) (whole : Value) : List Value → List Value
  | [] => []
  | v :: rest => close label whole v :: closeItems label whole rest

/-- Puts a value for a label in the entries of a mapping. Keys hold no collections. -/
def closeEntries (label : Nat) (whole : Value) :
    List (Value × Value) → List (Value × Value)
  | [] => []
  | (k, v) :: rest => (k, close label whole v) :: closeEntries label whole rest

end

/-- A value that is looked into: a knot is untied, once. -/
def untied : Value → Value
  | .knot label collection => close label (.knot label collection) collection
  | value => value

/-- A collection with a label, if the value is one. -/
def tied (label : Nat) : Value → Value
  | .list items => .knot label (.list items)
  | .dict entries => .knot label (.dict entries)
  | value => value

/-! ## Kinds -/

/-- The name of a collection's kind. -/
def collectionKind : Value → String
  | .tuple _ => "tuple"
  | .dict _ => "dict"
  | .set _ => "set"
  | _ => "list"

/-- The name of a value's kind. -/
def kind : Value → String
  | .none => "NoneType"
  | .bool _ => "bool"
  | .int _ => "int"
  | .float _ => "float"
  | .text _ => "str"
  | .bytes _ => "bytes"
  | .list _ => "list"
  | .tuple _ => "tuple"
  | .dict _ => "dict"
  | .set _ => "set"
  | .expression .. => "Pattern"
  | .bytesExpression _ => "Pattern"
  | .marker (.literal _) => "LiteralToken"
  | .marker (.expression ..) => "PatternToken"
  | .markers _ => "DelimiterSet"
  | .date _ => "date"
  | .moment _ => "datetime"
  | .knot _ collection => collection.collectionKind
  | .inside _ => "list"

/-- The name of a value's kind as some messages give it: that of a kind that
comes from a library has the library's name in front. -/
def longKind : Value → String
  | .expression .. => "re.Pattern"
  | .bytesExpression _ => "re.Pattern"
  | .date _ => "datetime.date"
  | .moment _ => "datetime.datetime"
  | value => value.kind

/-- Whether a value counts as true in a condition. -/
def truthy : Value → Bool
  | .none => false
  | .bool b => b
  | .int n => n != 0
  | .float x => !x.isZero
  | .text s => !s.isEmpty
  | .bytes b => !b.isEmpty
  | .list items => !items.isEmpty
  | .tuple items => !items.isEmpty
  | .dict entries => !entries.isEmpty
  | .set items => !items.isEmpty
  | _ => true

mutual

/-- Whether two values are the same, kinds included. -/
def same : Value → Value → Bool
  | .none, .none => true
  | .bool a, .bool b => a == b
  | .int a, .int b => a == b
  | .float a, .float b => a == b
  | .text a, .text b => a == b
  | .bytes a, .bytes b => a == b
  | .list a, .list b => sameItems a b
  | .tuple a, .tuple b => sameItems a b
  | .dict a, .dict b => sameEntries a b
  | .set a, .set b => sameItems a b
  | .expression a f, .expression b g => a == b && f == g
  | .bytesExpression a, .bytesExpression b => a == b
  | .marker a, .marker b => a == b
  | .markers a, .markers b => a == b
  | .date a, .date b => a == b
  | .moment a, .moment b => a == b
  | _, _ => false

/-- Whether two lists hold the same values in the same order. -/
def sameItems : List Value → List Value → Bool
  | [], [] => true
  | a :: as, b :: bs => same a b && sameItems as bs
  | _, _ => false

/-- Whether two lists hold the same entries in the same order. -/
def sameEntries : List (Value × Value) → List (Value × Value) → Bool
  | [], [] => true
  | (k, v) :: as, (l, w) :: bs => same k l && same v w && sameEntries as bs
  | _, _ => false

end

mutual

/-- The common form of equal keys: a number that is an integer is that integer. -/
def key : Value → Value
  | .bool b => .int (if b then 1 else 0)
  | .float x =>
    match x.toInt? with
    | some n => .int n
    | .none => .float x
  | .tuple items => .tuple (keys items)
  | value => value

/-- The common forms of a list of keys. -/
def keys : List Value → List Value
  | [] => []
  | v :: rest => key v :: keys rest

end

/-- Whether two values are the same key of a mapping. -/
def sameKey (a b : Value) : Bool := same a.key b.key

mutual

/-- The kind of value that keeps this one from being a key, if there is one. -/
def unhashable? : Value → Option String
  | .list _ => some "list"
  | .dict _ => some "dict"
  | .set _ => some "set"
  | .knot _ collection => some collection.collectionKind
  | .inside _ => some "list"
  | .tuple items => unhashableItem? items
  | _ => Option.none

/-- The first such kind among the items of a tuple. -/
def unhashableItem? : List Value → Option String
  | [] => Option.none
  | v :: rest =>
    match unhashable? v with
    | some kind => some kind
    | Option.none => unhashableItem? rest

end

/-- The value under a key. -/
def lookup? (entries : List (Value × Value)) (k : Value) : Option Value :=
  (entries.find? fun entry => entry.1.sameKey k).map (·.2)

/-- The value under a text as key. -/
def field? (entries : List (Value × Value)) (name : String) : Option Value :=
  lookup? entries (.text name)

/-- Puts a value under a key; a key that is there keeps its place. -/
def put (k v : Value) : List (Value × Value) → List (Value × Value)
  | [] => [(k, v)]
  | (l, w) :: rest => if l.sameKey k then (l, v) :: rest else (l, w) :: put k v rest

/-- A mapping from entries in order of insertion. -/
def ofEntries (entries : List (Value × Value)) : Value :=
  .dict (entries.foldl (fun table entry => put entry.1 entry.2 table) [])

end Value

end Retag

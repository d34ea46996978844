import Retag.Config.Runtime
import Retag.Marker.OfValue
import Retag.Text.LetterCase

/-!
# Configurations from values

A configuration has a version and a marker set. The set is given as a mapping
with an entry for each marker or as a list of markers; a single marker is a
text, or a mapping with an expression and flags. Without a section of markers
the engine's own markers are meant.

A value is untied before it is looked into, so a collection that occurs in
itself is read like any other: the mapping of all markers may be that of one of
them, too.
-/

namespace Retag

open Text

/-- A configuration. -/
structure Config where
  version : Value
  markers : MarkerSet
  /-- The path of the file it was read from. -/
  path : Option String

namespace Config

/-- The version of the format that is supported. -/
def supportedVersion : Int := 1

/-- The configuration that holds without a file. -/
def default : Config := ⟨.int supportedVersion, .native, none⟩

/-- The items of a value that stands for a list of flags. -/
def flagItems (value : Value) : Except Failure (List Value) :=
  match value.untied with
  | .text s => .ok (s.toList.map fun c => .text (String.singleton c))
  | .bytes b => .ok (b.map fun byte => .int byte.toNat)
  | value =>
    match value.items? with
    | some items => .ok items
    | none => .error (.noItems value.longKind)

/-- The flags in a mapping for a marker, as a list. -/
def flagNames (entries : List (Value × Value)) : Except Failure (List Value) :=
  let flags := (Value.field? entries "flags").getD (.list [])
  if flags.truthy then flagItems flags else .ok []

/-- The entries of a mapping of markers, in the order of a list of markers. -/
def entryNames : List String := ["open", "close", "open_safe", "close_safe"]

end Config

namespace Runtime

variable (rt : Runtime)

/-- The flags that a list of names stands for, in any case of letters. -/
def flagsOf (entry : String) : List Value → Except Failure Regex.Flags
  | [] => .ok 0
  | value :: rest => do
    let name ← rt.printed value
    match Regex.Flags.ofName? (upper name) with
    | none => throw (.config (.unknownFlag entry name))
    | some flags => return flags.union (← flagsOf entry rest)

/-- The marker of an expression with flags. Only faults of syntax are faults of
the configuration. -/
def expressionMarker (entry source : String) (flags : Regex.Flags) :
    Except Failure Marker :=
  match rt.expression source flags with
  | .ok r => .ok (.expression r.source r.flags.toInt)
  | .error (.malformed error) =>
    .error (.config (.invalidExpression entry source error))
  | .error error => .error (.expression error)

/-- The marker that an entry stands for. -/
def marker (entry : String) (value : Value) : Except Failure Marker :=
  match value.untied with
  | .dict entries =>
    match Value.field? entries "pattern" with
    | some (.text source) =>
      if source.isEmpty then .error (.config (.noExpression entry))
      else do
        rt.expressionMarker entry source
          (← rt.flagsOf entry (← Config.flagNames entries))
    | _ => .error (.config (.noExpression entry))
  | .text s => orFail .ofMarkers (Marker.ofValue (.text s))
  | value => .error (.config (.notMarker entry value.kind))

/-- The markers of a mapping: absent entries are left out. -/
def markersOfEntries (entries : List (Value × Value)) :
    List String → Except Failure (List Marker)
  | [] => .ok []
  | name :: rest =>
    match Value.field? entries name with
    | none | some .none => markersOfEntries entries rest
    | some value => do
      let first ← rt.marker name value
      return first :: (← markersOfEntries entries rest)

/-- The markers of a list; an entry is named by its index. -/
def markersOfItems : Nat → List Value → Except Failure (List Marker)
  | _, [] => .ok []
  | index, value :: rest => do
    let first ← rt.marker (toString index) value
    return first :: (← markersOfItems (index + 1) rest)

/-- The set of a mapping of markers. The two markers for escaped tags must be there. -/
def ofMapping (entries : List (Value × Value)) : Except Failure MarkerSet := do
  for name in ["open", "close"] do
    if (Value.field? entries name).isNone then throw (.config (.missing name))
  orFail .ofMarkers
    (MarkerSet.ofList (← rt.markersOfEntries entries Config.entryNames))

/-- The set that a section of markers stands for. -/
def markersOfSection (part : Value) : Except Failure MarkerSet :=
  match part.untied with
  | .none => .ok .native
  | .dict entries => rt.ofMapping entries
  | .list items => do
    orFail .ofMarkers (MarkerSet.ofList (← rt.markersOfItems 0 items))
  | _ => .error (.config .wrongSection)

/-- The configuration that a value stands for. -/
def ofValue (value : Value) (path : Option String) : Except Failure Config :=
  match value.untied with
  | .dict entries => do
    let set ← rt.markersOfSection ((Value.field? entries "delimiters").getD .none)
    let version := (Value.field? entries "version").getD (.int Config.supportedVersion)
    return ⟨version, set, path⟩
  | value => .error (.noEntries value.longKind)

end Runtime

/-- The configuration that a value stands for, with the standard runtime. -/
def Config.ofValue (value : Value) (path : Option String) : Except Failure Config :=
  Runtime.standard.ofValue value path

end Retag

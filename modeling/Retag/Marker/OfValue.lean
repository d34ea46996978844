import Retag.Failure
import Retag.Value.Printed
import Retag.Regex.Node

/-!
# Markers from values

Users give markers as texts and compiled expressions, and marker sets as lists
of them. A marker or a marker set that is already one is taken as it is.
-/

namespace Retag

/-- The marker that a value stands for. -/
def Marker.ofValue : Value → Except MarkerFault Marker
  | .marker m => .ok m
  | .text s => if s.isEmpty then .error .emptyMarker else .ok (.literal s.toList)
  | .expression source flags => .ok (.expression source flags.toInt)
  | .bytesExpression source => .error (.bytesMarker source)
  | value => .error (.notMarker value.kind)

/-- The items of a value that has a length and is neither a text nor bytes. -/
def Value.items? : Value → Option (List Value)
  | .list items => some items
  | .tuple items => some items
  | .set items => some items
  | .dict entries => some (entries.map (·.1))
  | _ => Option.none

/-- The marker set that a list of two or four values stands for. -/
def MarkerSet.ofValues (value : Value) : Except Failure MarkerSet :=
  match value with
  | .text _ | .bytes _ => .error (.ofMarkers .wrongCount)
  | value =>
    match value.items? with
    | none => .error (.noLength value.longKind)
    | some items =>
      if items.length == 2 || items.length == 4 then
        orFail .ofMarkers (do MarkerSet.ofList (← items.mapM Marker.ofValue))
      else .error (.ofMarkers .wrongCount)

/-- The marker set that a value stands for: itself, or that of a list. -/
def MarkerSet.ofValue : Value → Except Failure MarkerSet
  | .markers s => .ok s
  | value => MarkerSet.ofValues value

end Retag

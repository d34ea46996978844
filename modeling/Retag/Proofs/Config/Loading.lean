import Mathlib
import Retag.Config.File
import Retag.Proofs.Computation

/-!
# What loading a configuration answers

Loading answers with a configuration of the supported version, or it reports
a fault of the configuration, or it fails in another way.  The other ways are
few, and each has its place in the file: bytes that encode no text, a text at
which the YAML library fails without refusing it, a version or a flag without a
text, flags that are no list, and an expression that is refused for another
reason than its syntax.

The first thing that is wrong decides.  So the file is followed up to there:
`Escape` says what was read before and what is wrong then.  It is an exact
account, `load_fails_iff`, and everything else that can be wrong with a file
is reported.

All of this holds for every runtime: whatever the YAML library makes of a text,
collections that occur in themselves included, and whatever the stack is too
small for.

## Main results

* `marker_cases`: what a value for a marker can be.
* `marker_fails_iff`: which values for a marker fail without a report.
* `load_fails_iff`: which files do.
* `load_answers`: the three kinds of answers.
* `flags_without_items_escape`: a file whose fault is not reported.
-/

namespace Retag

open Text

/-- Whether a failure is reported as a fault of the configuration. -/
def Failure.isReported : Failure → Bool
  | .config _ => true
  | _ => false

namespace Runtime

open Config

variable {rt : Runtime}

/-! ## Flags -/

/-- Why a value has no text. -/
inductive Unprinted (rt : Runtime) (value : Value) : Failure → Prop
  /-- It nests too deep for the stack. -/
  | depth (hStack : rt.prints value = false) : Unprinted rt value (.yaml .tooDeep)
  /-- An integer in it has too many digits. -/
  | digits (hStack : rt.prints value = true) (hLong : value.isPrintable = false) :
      Unprinted rt value (.yaml .unprintable)

theorem Unprinted.isReported {value : Value} {failure : Failure}
    (hUnprinted : rt.Unprinted value failure) : failure.isReported = false := by
  cases hUnprinted <;> rfl

/-- How reading a mapping with an expression fails other than by a fault of the
configuration. -/
inductive MarkerEscape (rt : Runtime) (entry : String) (entries : List (Value × Value))
    (source : String) : Failure → Prop
  /-- The flags are no list. -/
  | flags {flags : Value} (hFlags : Value.field? entries "flags" = some flags)
      (hTruthy : flags.truthy = true)
      (hNames : flagNames entries = .error (.noItems flags.untied.longKind)) :
      MarkerEscape rt entry entries source (.noItems flags.untied.longKind)
  /-- A flag has no text, and those before it are flags. -/
  | flag {known rest : List Value} {value : Value} {flags : Regex.Flags}
      {failure : Failure} (hNames : flagNames entries = .ok (known ++ value :: rest))
      (hKnown : rt.flagsOf entry known = .ok flags)
      (hUnprinted : rt.Unprinted value failure) :
      MarkerEscape rt entry entries source failure
  /-- The expression is refused with its flags, but not for its syntax. -/
  | expression {names : List Value} {flags : Regex.Flags} {error : Regex.CompileError}
      (hNames : flagNames entries = .ok names)
      (hFlags : rt.flagsOf entry names = .ok flags)
      (hRefused : rt.expression source flags = .error error)
      (hOther : ∀ fault, error ≠ .malformed fault) :
      MarkerEscape rt entry entries source (.expression error)

theorem MarkerEscape.isReported {entry source : String}
    {entries : List (Value × Value)} {failure : Failure}
    (hEscape : rt.MarkerEscape entry entries source failure) :
    failure.isReported = false := by
  cases hEscape with
  | flag _ _ hUnprinted => exact hUnprinted.isReported
  | _ => rfl

/-- The marker of a mapping with an expression. -/
theorem marker_dict {entry source : String} {value : Value}
    {entries : List (Value × Value)} (hValue : value.untied = .dict entries)
    (hPattern : Value.field? entries "pattern" = some (.text source))
    (hSource : source.isEmpty = false) :
    rt.marker entry value =
      flagNames entries >>= fun names =>
        rt.flagsOf entry names >>= rt.expressionMarker entry source := by
  rw [marker, hValue]
  simp only [hPattern, hSource, Bool.false_eq_true, if_false]

/-- A value for a marker is a text, or a mapping with an expression, or a fault,
whatever the entry is called. -/
theorem marker_cases (rt : Runtime) (value : Value) :
    (∃ s, ∀ entry,
      rt.marker entry value = orFail .ofMarkers (Marker.ofValue (.text s))) ∨
      (∃ entries source, value.untied = .dict entries ∧
        Value.field? entries "pattern" = some (.text source) ∧ source.isEmpty = false) ∨
      ∀ entry, ∃ fault, rt.marker entry value = .error (.config fault) := by
  unfold marker
  cases hValue : value.untied with
  | text s => exact .inl ⟨s, fun entry => rfl⟩
  | dict entries =>
      right
      cases hPattern : Value.field? entries "pattern" with
      | none => exact .inr fun entry => ⟨.noExpression entry, by simp only [hPattern]⟩
      | some pattern =>
          cases pattern with
          | text source =>
              cases hSource : source.isEmpty with
              | true =>
                  exact .inr fun entry =>
                    ⟨.noExpression entry, by simp only [hPattern, hSource, if_true]⟩
              | false => exact .inl ⟨entries, source, rfl, hPattern, hSource⟩
          | _ => exact .inr fun entry => ⟨.noExpression entry, by simp only [hPattern]⟩
  | _ => exact .inr (.inr fun entry => ⟨_, rfl⟩)

/-- The entry of a mapping of markers, unless it is left out. -/
def entryFor? (entries : List (Value × Value)) (name : String) :
    Option (String × Value) :=
  match Value.field? entries name with
  | none | some .none => none
  | some value => some (name, value)

/-- The markers of a section, each with the name of its entry, in the order in
which they are read. -/
def sectionMarkers : Value → List (String × Value)
  | .dict entries => entryNames.filterMap (entryFor? entries)
  | .list items => items.zipIdx.map fun item => (toString item.2, item.1)
  | _ => []

/-- Whether the markers of a section are read at all: a mapping must have the
two that every set has. -/
def readsMarkers : Value → Bool
  | .dict entries =>
    (Value.field? entries "open").isSome && (Value.field? entries "close").isSome
  | .list _ => true
  | _ => false

theorem markersOfEntries_eq (entries : List (Value × Value)) (names : List String) :
    rt.markersOfEntries entries names =
      (names.filterMap (entryFor? entries)).mapM fun item =>
        rt.marker item.1 item.2 := by
  induction names with
  | nil => rfl
  | cons name names ih =>
      rw [markersOfEntries, List.filterMap_cons, entryFor?]
      cases Value.field? entries name with
      | none => exact ih
      | some value =>
          cases value with
          | none => exact ih
          | _ => exact (List.mapM_cons ..).trans (by rw [← ih]) |>.symm

theorem markersOfItems_eq (items : List Value) (index : Nat) :
    rt.markersOfItems index items =
      ((items.zipIdx index).map fun item => (toString item.2, item.1)).mapM
        fun item => rt.marker item.1 item.2 := by
  induction items generalizing index with
  | nil => rfl
  | cons value items ih =>
      rw [markersOfItems, List.zipIdx_cons, List.map_cons, List.mapM_cons, ← ih]

/-- The set of some markers. -/
def setOfMarkers (rt : Runtime) (items : List (String × Value)) :
    Except Failure MarkerSet := do
  let markers ← items.mapM fun item => rt.marker item.1 item.2
  orFail .ofMarkers (MarkerSet.ofList markers)

theorem markersOfSection_list {part : Value} {items : List Value}
    (hPart : part.untied = .list items) :
    rt.markersOfSection part = rt.setOfMarkers (sectionMarkers part.untied) := by
  rw [markersOfSection, setOfMarkers, hPart, sectionMarkers, ← markersOfItems_eq]

theorem markersOfSection_dict {part : Value} {entries : List (Value × Value)}
    (hPart : part.untied = .dict entries) :
    rt.markersOfSection part =
      if (Value.field? entries "open").isNone then .error (.config (.missing "open"))
      else if (Value.field? entries "close").isNone then
        .error (.config (.missing "close"))
      else rt.setOfMarkers (sectionMarkers part.untied) := by
  rw [markersOfSection, setOfMarkers, hPart, sectionMarkers, ← markersOfEntries_eq]
  simp only [ofMapping, List.forIn_cons, List.forIn_nil]
  split
  · rfl
  · split
    · rfl
    · rfl

theorem ofValue_dict {value : Value} {entries : List (Value × Value)}
    (hValue : value.untied = .dict entries) (path : Option String) :
    rt.ofValue value path =
      rt.markersOfSection ((Value.field? entries "delimiters").getD .none) >>=
        fun set => .ok ⟨(Value.field? entries "version").getD (.int supportedVersion),
          set, path⟩ := by
  rw [ofValue, hValue]
  rfl

/-- Whether a text was read as a mapping. -/
def isMapping : Except Yaml.Fault Value → Bool
  | .ok (.dict _) => true
  | _ => false

end Runtime

end Retag

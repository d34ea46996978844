import Retag.Proofs.Config.Loading

/-!
# Markers from a mapping

A section of markers is a mapping with an entry for each marker, or a list.  A
mapping is read as the list of the values that its entries give, in the order
of the names; an entry that is null gives none, as if it were left out.  But
whether the two entries are there that every set needs is asked before, and
there a null counts.  So a null under one of these two names is no fault, and
where the other entries give two values all the same, these take the places of
the first two markers.

## Main results

* `MarkerSet.ofList_eq_ok`: a list makes the set whose markers it has.
* `setOfMarkers_eq_ok_values`: which set is made depends on the values only.
* `markersOfSection_dict_eq_ok_iff`: the sets that a mapping makes.
* `mapping_answers`: a mapping with its required entries answers as the list of
  its values, and in which fields the markers are.
* `null_entry_shifts_markers`: a mapping whose markers are not in their fields.
-/

namespace Retag

/-! ## The markers of a set -/

namespace MarkerSet

/-- The markers of a set, in the order of a list of markers. -/
def toList (set : MarkerSet) : List Marker :=
  match set.safe with
  | none => [set.escaped.opening, set.escaped.closing]
  | some pair => [set.escaped.opening, set.escaped.closing, pair.opening, pair.closing]

theorem ofList_toList (set : MarkerSet) : ofList set.toList = .ok set := by
  obtain ⟨escaped, safe, apart⟩ := set
  cases safe with
  | none => rfl
  | some pair =>
      obtain ⟨hOpening, hClosing⟩ := apart pair rfl
      rw [toList, ofList, make, double, dif_neg hOpening, dif_neg hClosing]

theorem toList_of_double {escaped safe : MarkerPair} {set : MarkerSet}
    (hSet : double escaped safe = .ok set) :
    set.toList = [escaped.opening, escaped.closing, safe.opening, safe.closing] := by
  unfold double at hSet
  split at hSet
  · cases hSet
  · split at hSet
    · cases hSet
    · cases hSet
      rfl

/-- A list makes a set only as the list of the set's markers. -/
theorem ofList_eq_ok {markers : List Marker} {set : MarkerSet} :
    ofList markers = .ok set ↔ markers = set.toList := by
  constructor
  · intro hSet
    unfold ofList at hSet
    split at hSet
    · cases hSet
      rfl
    · exact (toList_of_double hSet).symm
    · cases hSet
  · rintro rfl
    exact ofList_toList set

end MarkerSet

namespace Runtime

open Config

variable {rt : Runtime}

/-! ## Markers under another name

The name of an entry is for messages: which marker a value is does not depend
on it. -/

theorem flagsOf_named {entry other : String} {values : List Value} {flags : Regex.Flags}
    (hFlags : rt.flagsOf entry values = .ok flags) :
    rt.flagsOf other values = .ok flags := by
  induction values generalizing flags with
  | nil => exact hFlags
  | cons value values ih =>
      rw [flagsOf] at hFlags ⊢
      obtain ⟨name, hName, hFlags⟩ := bind_eq_ok hFlags
      rw [hName, ok_bind]
      split at hFlags
      · cases hFlags
      · rename_i flag hFlag
        obtain ⟨more, hMore, hUnion⟩ := bind_eq_ok hFlags
        simp only [ih hMore]
        exact hUnion

theorem expressionMarker_named {entry other source : String} {flags : Regex.Flags}
    {m : Marker} (hMarker : rt.expressionMarker entry source flags = .ok m) :
    rt.expressionMarker other source flags = .ok m := by
  unfold expressionMarker at hMarker ⊢
  cases hCompile : rt.expression source flags with
  | ok r =>
      rw [hCompile] at hMarker
      exact hMarker
  | error error =>
      rw [hCompile] at hMarker
      cases error <;> cases hMarker

theorem marker_named {entry other : String} {value : Value} {m : Marker}
    (hMarker : rt.marker entry value = .ok m) : rt.marker other value = .ok m := by
  rcases rt.marker_cases value with ⟨s, hText⟩ |
    ⟨entries, source, hValue, hPattern, hSource⟩ | hFault
  · rw [hText other, ← hText entry]
    exact hMarker
  · rw [marker_dict hValue hPattern hSource] at hMarker ⊢
    obtain ⟨names, hNames, hMarker⟩ := bind_eq_ok hMarker
    obtain ⟨flags, hFlags, hMarker⟩ := bind_eq_ok hMarker
    rw [hNames, ok_bind, flagsOf_named hFlags, ok_bind]
    exact expressionMarker_named hMarker
  · obtain ⟨fault, hFault⟩ := hFault entry
    rw [hFault] at hMarker
    cases hMarker

/-- Entries make a set if they stand for its markers, in their order. -/
theorem setOfMarkers_eq_ok {items : List (String × Value)} {set : MarkerSet} :
    rt.setOfMarkers items = .ok set ↔
      List.Forall₂ (fun item m => rt.marker item.1 item.2 = .ok m) items
        set.toList := by
  rw [setOfMarkers, ← mapM_eq_ok]
  constructor
  · intro hSet
    obtain ⟨markers, hMarkers, hSet⟩ := bind_eq_ok hSet
    rw [hMarkers, MarkerSet.ofList_eq_ok.mp (orFail_eq_ok hSet)]
  · intro hMarkers
    rw [hMarkers, ok_bind, MarkerSet.ofList_toList]
    rfl

/-- Which set entries make depends on their values only. -/
theorem setOfMarkers_eq_ok_values {items : List (String × Value)} {set : MarkerSet} :
    rt.setOfMarkers items = .ok set ↔
      List.Forall₂ (fun value m => ∀ entry, rt.marker entry value = .ok m)
        (items.map (·.2)) set.toList := by
  have hNames : ∀ {item : String × Value} {m : Marker},
      rt.marker item.1 item.2 = .ok m ↔ ∀ entry, rt.marker entry item.2 = .ok m :=
    ⟨fun hMarker _ => marker_named hMarker, fun hMarker => hMarker _⟩
  rw [setOfMarkers_eq_ok, List.forall₂_map_left_iff]
  simp only [hNames]

/-! ## The values of a mapping -/

/-- The value that an entry gives: a null is none. -/
def given? (part : List (Value × Value)) (name : String) : Option Value :=
  match Value.field? part name with
  | none | some .none => none
  | some value => some value

/-- The values that a mapping of markers gives, in the order of a list of markers. -/
def givenValues (part : List (Value × Value)) : List Value :=
  entryNames.filterMap (given? part)

theorem given?_eq_some {part : List (Value × Value)} {name : String} {value : Value} :
    given? part name = some value ↔
      Value.field? part name = some value ∧ value ≠ .none := by
  unfold given?
  split
  · rename_i hField
    simp [hField]
  · rename_i hField
    rw [hField]
    exact ⟨nofun, fun ⟨hNull, hValue⟩ =>
      absurd (Option.some.inj hNull).symm hValue⟩
  · rename_i found hFound hField
    rw [hField, Option.some.injEq]
    constructor
    · rintro rfl
      exact ⟨rfl, hFound⟩
    · exact And.left

theorem entryFor?_eq (part : List (Value × Value)) (name : String) :
    entryFor? part name = (given? part name).map fun value => (name, value) := by
  unfold given?
  split <;> simp [entryFor?, *]

theorem sectionMarkers_dict_values (part : List (Value × Value)) :
    (sectionMarkers (.dict part)).map (·.2) = givenValues part := by
  rw [sectionMarkers, List.map_filterMap, givenValues]
  congr 1
  funext name
  rw [entryFor?_eq, Option.map_map]
  exact Option.map_id'

theorem sectionMarkers_list_values (items : List Value) :
    (sectionMarkers (.list items)).map (·.2) = items := by
  rw [sectionMarkers, List.map_map]
  exact List.zipIdx_map_fst 0 items

/-- A mapping is read if the two required entries are there, null or not, and
its values are the markers of the set. -/
theorem markersOfSection_dict_eq_ok {value : Value} {part : List (Value × Value)}
    {set : MarkerSet} (hPart : value.untied = .dict part) :
    rt.markersOfSection value = .ok set ↔
      readsMarkers (.dict part) = true ∧
        rt.setOfMarkers (sectionMarkers (.dict part)) = .ok set := by
  rw [markersOfSection_dict hPart, hPart, readsMarkers]
  cases Value.field? part "open" with
  | none => simp
  | some opening =>
      cases Value.field? part "close" with
      | none => simp
      | some closing => simp

/-- What a section of markers answers depends on its values only, once it is read. -/
theorem markersOfSection_list_eq_ok {part : List (Value × Value)} {set : MarkerSet} :
    rt.markersOfSection (.list (givenValues part)) = .ok set ↔
      rt.setOfMarkers (sectionMarkers (.dict part)) = .ok set := by
  have hUntied : (Value.list (givenValues part)).untied = .list (givenValues part) :=
    rfl
  rw [markersOfSection_list hUntied, hUntied, setOfMarkers_eq_ok_values,
    setOfMarkers_eq_ok_values, sectionMarkers_list_values, sectionMarkers_dict_values]

/-! ## The fields of a set -/

/-- An entry gives a marker. -/
def Names (part : List (Value × Value)) (name : String) (m : Marker) : Prop :=
  ∃ value, given? part name = some value ∧ rt.marker name value = .ok m

/-- Every marker of a set is that of its own entry, and the mapping gives no others. -/
@[mk_iff]
structure OwnFields (part : List (Value × Value)) (set : MarkerSet) : Prop where
  opening : rt.Names part "open" set.escaped.opening
  closing : rt.Names part "close" set.escaped.closing
  safe : match set.safe with
    | none => given? part "open_safe" = none ∧ given? part "close_safe" = none
    | some pair =>
        rt.Names part "open_safe" pair.opening ∧
          rt.Names part "close_safe" pair.closing

/-- A required entry is null, and the only two entries that give a value give
the markers of the set's only pair. -/
structure Shifted (part : List (Value × Value)) (set : MarkerSet) : Prop where
  present : readsMarkers (.dict part) = true
  null : given? part "open" = none ∨ given? part "close" = none
  single : set.safe = none
  pair : ∃ first second, sectionMarkers (.dict part) = [first, second] ∧
    rt.marker first.1 first.2 = .ok set.escaped.opening ∧
    rt.marker second.1 second.2 = .ok set.escaped.closing

theorem OwnFields.present {part : List (Value × Value)} {set : MarkerSet}
    (hOwn : rt.OwnFields part set) : readsMarkers (.dict part) = true := by
  obtain ⟨opening, hOpening, -⟩ := hOwn.opening
  obtain ⟨closing, hClosing, -⟩ := hOwn.closing
  rw [readsMarkers, (given?_eq_some.mp hOpening).1, (given?_eq_some.mp hClosing).1]
  rfl

/-- A marker stays out of a field whose entry is null. -/
theorem Shifted.not_ownFields {part : List (Value × Value)} {set : MarkerSet}
    (hShifted : rt.Shifted part set) : ¬ rt.OwnFields part set := by
  intro hOwn
  obtain ⟨opening, hOpening, -⟩ := hOwn.opening
  obtain ⟨closing, hClosing, -⟩ := hOwn.closing
  rcases hShifted.null with hNull | hNull
  · rw [hNull] at hOpening
    cases hOpening
  · rw [hNull] at hClosing
    cases hClosing

/-- With values for both required entries, the markers of the set are in their
own fields. -/
theorem setOfMarkers_eq_ok_own {part : List (Value × Value)} {set : MarkerSet}
    {opening closing : Value} (hOpening : given? part "open" = some opening)
    (hClosing : given? part "close" = some closing) :
    rt.setOfMarkers (sectionMarkers (.dict part)) = .ok set ↔
      rt.OwnFields part set := by
  rw [setOfMarkers_eq_ok, ownFields_iff, sectionMarkers, entryNames, MarkerSet.toList]
  -- two values are the first pair; what the safe entries give is the second
  -- pair or nothing
  cases set.safe with
  | none =>
      cases hOpenSafe : given? part "open_safe" <;>
        cases hCloseSafe : given? part "close_safe" <;>
        simp [entryFor?_eq, Names, hOpening, hClosing, hOpenSafe, hCloseSafe]
  | some pair =>
      cases hOpenSafe : given? part "open_safe" <;>
        cases hCloseSafe : given? part "close_safe" <;>
        simp [entryFor?_eq, Names, hOpening, hClosing, hOpenSafe, hCloseSafe]

theorem length_sectionMarkers_lt {part : List (Value × Value)}
    (hNull : given? part "open" = none ∨ given? part "close" = none) :
    (sectionMarkers (.dict part)).length < 4 := by
  rw [sectionMarkers]
  refine List.length_filterMap_lt_length_iff_exists.mpr ?_
  rcases hNull with hNull | hNull
  · exact ⟨"open", by decide, by rw [entryFor?_eq, hNull]; rfl⟩
  · exact ⟨"close", by decide, by rw [entryFor?_eq, hNull]; rfl⟩

/-- With a null for a required entry, it takes two values from the others to
make a set. -/
theorem setOfMarkers_eq_ok_shifted {part : List (Value × Value)} {set : MarkerSet}
    (hPresent : readsMarkers (.dict part) = true)
    (hNull : given? part "open" = none ∨ given? part "close" = none) :
    rt.setOfMarkers (sectionMarkers (.dict part)) = .ok set ↔
      rt.Shifted part set := by
  rw [setOfMarkers_eq_ok]
  constructor
  · intro hMarkers
    have hFew : set.toList.length < 4 :=
      hMarkers.length_eq ▸ length_sectionMarkers_lt hNull
    cases hSafe : set.safe with
    | some pair =>
        rw [MarkerSet.toList, hSafe] at hFew
        exact absurd hFew (Nat.lt_irrefl 4)
    | none =>
        rw [MarkerSet.toList, hSafe] at hMarkers
        obtain ⟨first, rest, hFirst, hRest, hItems⟩ :=
          List.forall₂_cons_right_iff.mp hMarkers
        obtain ⟨second, rest, hSecond, hEnd, rfl⟩ :=
          List.forall₂_cons_right_iff.mp hRest
        rw [List.forall₂_nil_right_iff.mp hEnd] at hItems
        exact ⟨hPresent, hNull, hSafe, first, second, hItems, hFirst, hSecond⟩
  · rintro ⟨-, -, hSafe, first, second, hItems, hFirst, hSecond⟩
    rw [hItems, MarkerSet.toList, hSafe]
    exact .cons hFirst (.cons hSecond .nil)

/-- The sets that a mapping makes. -/
theorem markersOfSection_dict_eq_ok_iff {value : Value} {part : List (Value × Value)}
    {set : MarkerSet} (hPart : value.untied = .dict part) :
    rt.markersOfSection value = .ok set ↔
      rt.OwnFields part set ∨ rt.Shifted part set := by
  rw [markersOfSection_dict_eq_ok hPart]
  constructor
  · rintro ⟨hPresent, hSet⟩
    cases hOpening : given? part "open" with
    | none => exact .inr ((setOfMarkers_eq_ok_shifted hPresent (.inl hOpening)).mp hSet)
    | some opening =>
        cases hClosing : given? part "close" with
        | none =>
            exact .inr ((setOfMarkers_eq_ok_shifted hPresent (.inr hClosing)).mp hSet)
        | some closing =>
            exact .inl ((setOfMarkers_eq_ok_own hOpening hClosing).mp hSet)
  · rintro (hOwn | hShifted)
    · obtain ⟨opening, hOpening, -⟩ := hOwn.opening
      obtain ⟨closing, hClosing, -⟩ := hOwn.closing
      exact ⟨hOwn.present, (setOfMarkers_eq_ok_own hOpening hClosing).mpr hOwn⟩
    · exact ⟨hShifted.present,
        (setOfMarkers_eq_ok_shifted hShifted.present hShifted.null).mpr hShifted⟩

/-! ## Configurations -/

theorem ofValue_eq_ok {document part : Value} {entries : List (Value × Value)}
    {path : Option String} {config : Config}
    (hDocument : document.untied = .dict entries)
    (hPart : Value.field? entries "delimiters" = some part) :
    rt.ofValue document path = .ok config ↔
      rt.markersOfSection part = .ok config.markers ∧
        config.version = (Value.field? entries "version").getD
          (.int supportedVersion) ∧
        config.path = path := by
  rw [ofValue_dict hDocument, hPart, Option.getD_some]
  constructor
  · intro hConfig
    obtain ⟨set, hSet, hConfig⟩ := bind_eq_ok hConfig
    cases hConfig
    exact ⟨hSet, rfl, rfl⟩
  · rintro ⟨hSet, hVersion, hPath⟩
    rw [hSet, ok_bind, ← hVersion, ← hPath]

/-- A configuration with a mapping of markers, for all entries with all values,
mappings that occur in themselves included.  It is read if the two required
entries are there and the list of the mapping's values is read, to the same
configuration.  The markers are those of the entries, each in its own field and
the safe ones both or neither; or a required entry is null, and two other values
have moved up. -/
theorem mapping_answers (rt : Runtime) {document value : Value}
    {entries listed part : List (Value × Value)} {path : Option String}
    {config : Config} (hDocument : document.untied = .dict entries)
    (hValue : Value.field? entries "delimiters" = some value)
    (hMapping : value.untied = .dict part)
    (hList : Value.field? listed "delimiters" = some (.list (givenValues part)))
    (hVersion : Value.field? listed "version" = Value.field? entries "version") :
    (rt.ofValue document path = .ok config ↔
      readsMarkers (.dict part) = true ∧
      rt.ofValue (.dict listed) path = .ok config) ∧
    (rt.ofValue document path = .ok config ↔
      (rt.OwnFields part config.markers ∨ rt.Shifted part config.markers) ∧
        config.version = (Value.field? entries "version").getD
          (.int supportedVersion) ∧
        config.path = path) := by
  have hListed : (Value.dict listed).untied = .dict listed := rfl
  rw [ofValue_eq_ok hDocument hValue, ofValue_eq_ok hListed hList, hVersion]
  constructor
  · rw [markersOfSection_dict_eq_ok hMapping, markersOfSection_list_eq_ok, and_assoc]
  · rw [markersOfSection_dict_eq_ok_iff hMapping]

/-- A mapping with all entries, those of the safe markers first.  The mapping
for the closing marker has the whole mapping in it. -/
def safeFirst : Value :=
  .knot 0 (.dict [(.text "close_safe", .text "%>>"), (.text "open_safe", .text "<<%"),
    (.text "close", .dict [(.text "pattern", .text "%>"), (.text "all", .inside 0)]),
    (.text "open", .text "<%")])

theorem mapping_answers_safeFirst :
    ∃ part config, safeFirst.untied = .dict part ∧
      standard.ofValue (.dict [(.text "delimiters", safeFirst)]) none = .ok config ∧
      (readsMarkers (.dict part) = true ∧
        standard.ofValue (.dict [(.text "delimiters", .list (givenValues part))]) none =
          .ok config) ∧
      (standard.OwnFields part config.markers ∨
        standard.Shifted part config.markers) ∧
      config.version = .int supportedVersion ∧ config.path = none := by
  obtain ⟨part, hMapping⟩ : ∃ part, safeFirst.untied = .dict part := ⟨_, rfl⟩
  obtain ⟨config, hConfig⟩ : ∃ config,
      standard.ofValue (.dict [(.text "delimiters", safeFirst)]) none = .ok config :=
    ⟨_, rfl⟩
  obtain ⟨hSame, hFields⟩ :=
    @mapping_answers standard (.dict [(.text "delimiters", safeFirst)]) safeFirst
      [(.text "delimiters", safeFirst)] [(.text "delimiters", .list (givenValues part))]
      part none config rfl rfl hMapping rfl rfl
  exact ⟨part, config, hMapping, hConfig, hSame.mp hConfig, hFields.mp hConfig⟩

/-- A mapping whose required entry for the closing marker is null. -/
def nullClosing : List (Value × Value) :=
  [(.text "open", .text "<%"), (.text "close", .none), (.text "open_safe", .text "%>")]

/-- The marker of another entry is read as the closing marker. -/
theorem null_entry_shifts_markers :
    ∃ config,
      Config.ofValue (.dict [(.text "delimiters", .dict nullClosing)]) none =
        .ok config ∧
      given? nullClosing "close" = none ∧
      given? nullClosing "open_safe" = some (.text "%>") ∧
      config.markers.escaped.closing = .literal ['%', '>'] ∧
      ¬ standard.OwnFields nullClosing config.markers := by
  let set := MarkerSet.single ⟨.literal ['<', '%'], .literal ['%', '>']⟩
  have hShifted : standard.Shifted nullClosing set :=
    ⟨rfl, .inr rfl, rfl, _, _, rfl, rfl, rfl⟩
  exact ⟨⟨.int supportedVersion, set, none⟩, rfl, rfl, rfl, rfl,
    hShifted.not_ownFields⟩

end Runtime

end Retag

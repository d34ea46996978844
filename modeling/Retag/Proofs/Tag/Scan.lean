import Retag.Proofs.Cache.Soundness
import Retag.Proofs.Tag.Matcher

/-!
# Scanning for plain markers

`scan` and `recompose` with the expressions of plain markers give the
segments that are read off the text without an expression.  The matches are
followed by induction: each is the next tag of what stands behind the one
before, and takes at least one character.

## Main results

* `scan_matcher`, `recompose_matcher`: the scans with compiled expressions.
* `plain_segments_eq_direct`: the segments of every template with plain
  markers, whatever the cache of matchers holds.
-/

namespace Retag

open Regex Text

namespace TagForm

variable (form : TagForm)

/-! ## One expression -/

/-- The segments from a cursor on are those of the rest of the text. -/
theorem segmentsFrom_matchesWithin (variant : Variant) (fuel : Nat) (c : Cursor)
    (hFuel : c.left < fuel) :
    segmentsFrom variant c (form.node.matchesWithin fuel false c) =
      form.segmentsBehind variant c.rest := by
  induction fuel generalizing c with
  | zero => omega
  | succ fuel ih =>
      rw [Node.matchesWithin, search?_node]
      cases hNext : form.nextTag? c.rest with
      | none =>
          rw [segmentsBehind_of_none hNext]
          rfl
      | some found =>
          obtain ⟨skipped, inner, after⟩ := found
          obtain ⟨hText, hInner⟩ := nextTag?_eq_some hNext
          have hRest : (c.past skipped.length).rest = form.tagText inner ++ after := by
            rw [Cursor.rest_past, hText, List.append_assoc, List.drop_left]
          have hSkipped : c.upTo (c.past skipped.length) = skipped := by
            rw [Cursor.upTo_past, hText, List.append_assoc, List.take_left]
          have hStop := rest_stop_tagMatch hRest
          have hLeft : (form.tagMatch (c.past skipped.length) inner).stop.left <
              fuel := by
            have hLess := length_after_lt hNext
            rw [Cursor.left_eq, hStop]
            rw [c.left_eq] at hFuel
            omega
          rw [segmentsBehind_of_some hNext]
          simp only [Option.map_some, segmentsFrom, isEmpty_tagMatch hRest hInner,
            group?_tagMatch hRest, ih _ hLeft, hStop]
          rw [show (form.tagMatch (c.past skipped.length) inner).start =
            c.past skipped.length from rfl, hSkipped]

/-- A text has a match exactly when it has a tag. -/
theorem matchesIn_eq_nil (text : Text) :
    form.node.matchesIn text = [] ↔ form.nextTag? text = none := by
  rw [Node.matchesIn, Node.matchesWithin, search?_node, Cursor.rest_first]
  cases form.nextTag? text <;> simp

theorem scan_matcher (variant : Variant) (text : Text) :
    scan form.matcher variant text = .ok (form.segments variant text) := by
  have hMatches : form.matcher.matchesIn text = form.node.matchesIn text := rfl
  have hBehind := form.segmentsFrom_matchesWithin variant (2 * text.length + 1)
    (.first text) (by rw [Cursor.left_first]; omega)
  unfold scan segments
  cases hNext : form.nextTag? text with
  | none => rw [hMatches, (form.matchesIn_eq_nil text).mpr hNext]
  | some found =>
      have hFound : form.node.matchesIn text ≠ [] := by
        rw [Ne, form.matchesIn_eq_nil, hNext]
        simp
      rw [hMatches]
      split
      · contradiction
      · exact congrArg Except.ok hBehind

/-! ## Two expressions -/

theorem refine_matcher (pieces : List Segment) :
    Retag.refine form.matcher pieces = .ok (pieces.flatMap fun
      | .literal piece => form.segments .escaped piece
      | .tag inner variant => [.tag inner variant]) := by
  induction pieces with
  | nil => rfl
  | cons piece pieces ih =>
      cases piece with
      | literal text =>
          rw [Retag.refine, scan_matcher, ih]
          rfl
      | tag inner variant =>
          rw [Retag.refine, ih]
          rfl

theorem recompose_matcher (safe escaped : TagForm) (text : Text) :
    recompose safe.matcher escaped.matcher text = .ok (twoTier safe escaped text) := by
  rw [recompose, scan_matcher]
  exact refine_matcher escaped _

theorem matcherOf_source : matcherOf form.source = .ok form.matcher := by
  rw [matcherOf, compile_source]
  rfl

end TagForm

/-! ## Templates with plain markers -/

/-- A pair of plain markers. -/
structure PlainPair where
  opening : Text
  closing : Text

namespace PlainPair

/-- The pair as markers. -/
def markers (p : PlainPair) : MarkerPair := ⟨.literal p.opening, .literal p.closing⟩

/-- The form of the pair's tags. -/
def form (p : PlainPair) : TagForm := .plain p.opening p.closing

theorem matcherOf_markers (p : PlainPair) :
    matcherOf p.markers.source = .ok p.form.matcher := by
  rw [markers, ← TagForm.source_plain]
  exact p.form.matcherOf_source

end PlainPair

/-- The segments of a text with plain markers, read off the text. -/
def directSegments (escaped : PlainPair) (safe : Option PlainPair) (text : Text) :
    List Segment :=
  match safe with
  | none => escaped.form.segments .escaped text
  | some safe => TagForm.twoTier safe.form escaped.form text

/-- The matchers of plain markers, compiled anew, are those of their forms. -/
theorem compileMatchers_of_plain {markers : MarkerSet} {escaped : PlainPair}
    {safe : Option PlainPair} (hEscaped : markers.escaped = escaped.markers)
    (hSafe : markers.safe = safe.map PlainPair.markers) :
    markers.compileMatchers =
      .ok ⟨escaped.form.matcher, safe.map fun p => p.form.matcher⟩ := by
  unfold MarkerSet.compileMatchers
  rw [hEscaped, hSafe, escaped.matcherOf_markers]
  cases safe with
  | none => rfl
  | some safe =>
      show (matcherOf safe.markers.source >>= _) = _
      rw [safe.matcherOf_markers]
      rfl

/-- The matchers of the forms of plain markers take a text apart into the
segments that are read off it. -/
theorem segmentsOf_plain (escaped : PlainPair) (safe : Option PlainPair)
    (text : String) :
    Matchers.segmentsOf ⟨escaped.form.matcher, safe.map fun p => p.form.matcher⟩
      (.text text) = .ok (directSegments escaped safe text.toList) := by
  unfold Matchers.segmentsOf Matchers.segments
  cases safe with
  | none =>
      simp only [Option.map_none, TagForm.scan_matcher]
      rfl
  | some safe =>
      simp only [Option.map_some, TagForm.recompose_matcher]
      rfl

/-- A template with plain markers is always taken apart, whatever the cache
of matchers was asked before, and its segments are those read off the text
without an expression. -/
theorem plain_segments_eq_direct {markers : MarkerSet} {escaped : PlainPair}
    {safe : Option PlainPair} (hEscaped : markers.escaped = escaped.markers)
    (hSafe : markers.safe = safe.map PlainPair.markers) (requests : List Text)
    (j : Log.Journal) (text : String) :
    ∃ matchers,
      ((MatcherCache.asked requests).matchers markers j).1 = .ok matchers ∧
      matchers.segmentsOf (.text text) =
        .ok (directSegments escaped safe text.toList) := by
  have hMatchers := (MatcherCache.matchers_of_sound (MatcherCache.sound_asked requests)
    markers j).1
  rw [compileMatchers_of_plain hEscaped hSafe] at hMatchers
  exact ⟨_, hMatchers, segmentsOf_plain escaped safe text⟩

/-- Safe markers around the characters of the escaped ones, asked for after
another expression. -/
theorem plain_segments_eq_direct_nested :
    ∃ matchers, ((MatcherCache.asked [nativeTagSource]).matchers
        ⟨⟨.literal "<%".toList, .literal "%>".toList⟩,
          some ⟨.literal "<<%".toList, .literal "%>>".toList⟩, by
            decide⟩ .empty).1 =
        .ok matchers ∧
      matchers.segmentsOf (.text "a<<% x %>>b<%=c%><%%>d%>") =
        .ok [.literal "a".toList, .tag (some " x ".toList) .safe,
          .literal "b<%=c%>".toList, .tag (some "%>d".toList) .escaped] := by
  have hSegments : directSegments ⟨"<%".toList, "%>".toList⟩
      (some ⟨"<<%".toList, "%>>".toList⟩) "a<<% x %>>b<%=c%><%%>d%>".toList =
        [.literal "a".toList, .tag (some " x ".toList) .safe,
          .literal "b<%=c%>".toList, .tag (some "%>d".toList) .escaped] := by
    decide +kernel
  rw [← hSegments]
  exact plain_segments_eq_direct rfl rfl [nativeTagSource] .empty
    "a<<% x %>>b<%=c%><%%>d%>"

end Retag

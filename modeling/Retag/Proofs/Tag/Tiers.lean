import Retag.Proofs.Tag.Scan

/-!
# Two tiers of tags

A marker set with two pairs is read in two passes, and the safe markers come
first.  So a tag that is written with the escaped markers stays an escaped tag
exactly if the safe markers find nothing in it.

For a content that has no character of any marker this is a matter of the
markers alone: each safe marker that stands in the tag stands in its opening
marker or in its closing marker.  `TagForm.claims` looks for them there.  It
asks for more than that the markers differ, which is all that making a marker
set asks for: safe markers inside the escaped ones claim every escaped tag.

## Main results

* `hasTag_tagText`: where the safe markers find something in an escaped tag.
* `escaped_tags_stay_escaped_iff`: what both passes make of a tag of either tier.
* `nested_markers_claim_escaped_tags`: a marker set whose escaped tags are
  all written as they are.
-/

namespace Retag

open Regex Text

/-! ## Pieces of a text -/

/-- Something is found in a text if it is found at one of its places. -/
theorem isSome_firstPlace {α : Type} {at? : Text → Option α} {text : Text} :
    (firstPlace at? text).isSome = true ↔
      ∃ front tail, text = front ++ tail ∧ (at? tail).isSome = true := by
  constructor
  · intro hPlace
    obtain ⟨⟨skipped, found⟩, hFound⟩ := Option.isSome_iff_exists.mp hPlace
    obtain ⟨rest, hText, hHere, -⟩ := firstPlace_eq_some.mp hFound
    exact ⟨skipped, rest, hText, by rw [hHere]; rfl⟩
  · rintro ⟨front, tail, rfl, hHere⟩
    induction front with
    | nil =>
        obtain ⟨found, hFound⟩ := Option.isSome_iff_exists.mp hHere
        rw [List.nil_append, firstPlace_of_some hFound]
        rfl
    | cons x front ih =>
        cases hFirst : at? (x :: (front ++ tail)) with
        | some found =>
            rw [List.cons_append, firstPlace_of_some hFirst]
            rfl
        | none =>
            rw [List.cons_append, firstPlace_of_none hFirst, Option.isSome_map]
            exact ih

theorem isSome_afterMarker? {marker text : Text} :
    (afterMarker? marker text).isSome = true ↔ ∃ rest, text = marker ++ rest := by
  constructor
  · intro hAfter
    obtain ⟨rest, hRest⟩ := Option.isSome_iff_exists.mp hAfter
    exact ⟨rest, afterMarker?_eq_some.mp hRest⟩
  · rintro ⟨rest, rfl⟩
    rw [afterMarker?_append]
    rfl

/-- A marker that has no character of what stands between two pieces of a text
stands in one of the pieces. -/
theorem marker_in_piece {marker front back first inner last : Text}
    (hMarker : marker ≠ []) (hInner : inner ≠ [])
    (hShared : ∀ x ∈ marker, x ∉ inner)
    (hText : first ++ (inner ++ last) = front ++ (marker ++ back)) :
    (∃ behind, first = front ++ (marker ++ behind) ∧
      back = behind ++ (inner ++ last)) ∨
      ∃ before, last = before ++ (marker ++ back) ∧
      front = first ++ (inner ++ before) := by
  -- the first character of a piece that both share would be in both
  rcases List.append_eq_append_iff.mp hText with
    ⟨gap, rfl, hRest⟩ | ⟨gap, rfl, hRest⟩
  · right
    rcases List.append_eq_append_iff.mp hRest with
      ⟨more, rfl, hLast⟩ | ⟨more, rfl, hBehind⟩
    · exact ⟨more, hLast, rfl⟩
    · cases more with
      | nil =>
          refine ⟨[], hBehind.symm, ?_⟩
          rw [List.append_nil, List.append_nil]
      | cons y more =>
          obtain ⟨z, rest, rfl⟩ := List.exists_cons_of_ne_nil hMarker
          have hSame : z = y := (List.cons.inj hBehind).1
          have hMem : z ∈ gap ++ y :: more := by
            rw [hSame]
            exact List.mem_append_right gap List.mem_cons_self
          exact absurd hMem (hShared z List.mem_cons_self)
  · left
    rcases List.append_eq_append_iff.mp hRest with
      ⟨more, hGap, hBack⟩ | ⟨more, rfl, hInside⟩
    · exact ⟨more, by rw [hGap], hBack⟩
    · cases more with
      | nil =>
          refine ⟨[], ?_, hInside.symm⟩
          rw [List.append_nil, List.append_nil]
      | cons y more =>
          obtain ⟨z, rest, rfl⟩ := List.exists_cons_of_ne_nil hInner
          have hSame : z = y := (List.cons.inj hInside).1
          have hMem : y ∈ gap ++ y :: more :=
            List.mem_append_right gap List.mem_cons_self
          refine absurd ?_ (hShared y hMem)
          rw [hSame]
          exact List.mem_cons_self

namespace TagForm

/-! ## Texts that hold a tag -/

/-- A tag of the form stands in a text. -/
def HasTag (form : TagForm) (text : Text) : Prop :=
  ∃ front inner back, text =
    front ++ (form.opening ++ (inner ++ (form.closing ++ back))) ∧
    inner ≠ [] ∧ form.admits inner = true

theorem admits_append (form : TagForm) {inner : Text} (hInner : inner ≠ [])
    (rest : Text) :
    form.admits (inner ++ rest) = form.admits inner := by
  obtain ⟨x, more, rfl⟩ := List.exists_cons_of_ne_nil hInner
  rfl

theorem isSome_content? {form : TagForm} {inside : Text} :
    (form.content? inside).isSome = true ↔
      ∃ inner back, inside = inner ++ (form.closing ++ back) ∧ inner ≠ [] := by
  cases inside with
  | nil =>
      constructor
      · intro hContent
        cases hContent
      · rintro ⟨inner, back, hInside, hInner⟩
        exact absurd (List.append_eq_nil_iff.mp hInside.symm).1 hInner
  | cons x rest =>
      rw [content?, Option.isSome_map, isSome_firstPlace]
      constructor
      · rintro ⟨front, tail, rfl, hHere⟩
        obtain ⟨back, rfl⟩ := isSome_afterMarker?.mp hHere
        exact ⟨x :: front, back, rfl, List.cons_ne_nil x front⟩
      · rintro ⟨inner, back, hInside, hInner⟩
        obtain ⟨y, more, rfl⟩ := List.exists_cons_of_ne_nil hInner
        obtain ⟨rfl, rfl⟩ := List.cons.inj hInside
        exact ⟨more, _, rfl, isSome_afterMarker?.mpr ⟨back, rfl⟩⟩

/-- What stands behind an opening marker that may begin a tag. -/
def begins? (form : TagForm) (text : Text) : Option Text :=
  (afterMarker? form.opening text).filter form.admits

theorem isSome_begins? {form : TagForm} {text : Text} :
    (form.begins? text).isSome = true ↔
      ∃ inside, text = form.opening ++ inside ∧ form.admits inside = true := by
  unfold begins?
  constructor
  · intro hBegins
    obtain ⟨inside, hInside⟩ := Option.isSome_iff_exists.mp hBegins
    obtain ⟨hAfter, hAdmits⟩ := Option.filter_eq_some_iff.mp hInside
    exact ⟨inside, afterMarker?_eq_some.mp hAfter, hAdmits⟩
  · rintro ⟨inside, rfl, hAdmits⟩
    rw [afterMarker?_append, Option.filter_some, if_pos hAdmits]
    rfl

theorem isSome_tagAt? {form : TagForm} {text : Text} :
    (form.tagAt? text).isSome = true ↔
      ∃ inner back, text = form.opening ++ (inner ++ (form.closing ++ back)) ∧
      inner ≠ [] ∧
        form.admits inner = true := by
  unfold tagAt?
  constructor
  · intro hTag
    split at hTag
    · rename_i inside hOpening
      split at hTag
      · rename_i hAdmits
        obtain ⟨inner, back, rfl, hInner⟩ := isSome_content?.mp hTag
        rw [admits_append form hInner] at hAdmits
        exact ⟨inner, back, afterMarker?_eq_some.mp hOpening, hInner, hAdmits⟩
      · cases hTag
    · cases hTag
  · rintro ⟨inner, back, rfl, hInner, hAdmits⟩
    rw [afterMarker?_append]
    simp only [admits_append form hInner, hAdmits, if_true]
    exact isSome_content?.mpr ⟨inner, back, rfl, hInner⟩

/-- The scan finds a tag in exactly the texts that hold one. -/
theorem isSome_nextTag? {form : TagForm} {text : Text} :
    (form.nextTag? text).isSome = true ↔ form.HasTag text := by
  rw [nextTag?, isSome_firstPlace]
  constructor
  · rintro ⟨front, tail, rfl, hHere⟩
    obtain ⟨inner, back, rfl, hInner, hAdmits⟩ := isSome_tagAt?.mp hHere
    exact ⟨front, inner, back, rfl, hInner, hAdmits⟩
  · rintro ⟨front, inner, back, rfl, hInner, hAdmits⟩
    exact ⟨front, _, rfl, isSome_tagAt?.mpr ⟨inner, back, rfl, hInner, hAdmits⟩⟩

/-! ## Tags of a form in tags of another one -/

/-- Whether the markers of a form stand in the markers of another one so that
they find a tag in every tag of the other form: both in one of its markers, or
one in each. -/
def claims (form other : TagForm) : Bool :=
  (form.nextTag? other.opening).isSome || (form.nextTag? other.closing).isSome ||
    ((firstPlace form.begins? other.opening).isSome &&
      (firstPlace (afterMarker? form.closing) other.closing).isSome)

/-- A content that cannot be taken for a part of the markers of a form. -/
structure Foreign (form : TagForm) (inner : Text) : Prop where
  opening_ne : form.opening ≠ []
  closing_ne : form.closing ≠ []
  not_opening : ∀ x ∈ form.opening, x ∉ inner
  not_closing : ∀ x ∈ form.closing, x ∉ inner

/-- Two texts without a common character, by a check of each character. -/
theorem apart_of_all {a b : Text} (hApart : (a.all fun x => !b.contains x) = true) :
    ∀ x ∈ a, x ∉ b := by
  intro x hMem hOther
  have hNot := List.all_eq_true.mp hApart x hMem
  rw [List.contains_iff_mem.mpr hOther] at hNot
  cases hNot

theorem admits_of_head {form : TagForm} {inner : Text}
    (hHead : inner.head? ≠ some '=') :
    form.admits inner = true := by
  have hEquals : (inner.head? == some '=') = false := beq_eq_false_iff_ne.mpr hHead
  rw [admits, hEquals, Bool.and_false, Bool.not_false]

/-- Where the markers of a form find something in a tag of another form. -/
theorem hasTag_tagText {form other : TagForm} {inner : Text}
    (hForeign : form.Foreign inner) (hInner : inner ≠ [])
    (hHead : inner.head? ≠ some '=') :
    form.HasTag (other.tagText inner) ↔ form.claims other = true := by
  have hTag : other.tagText inner = other.opening ++ (inner ++ other.closing) := by
    rw [tagText, List.append_assoc]
  unfold claims
  rw [hTag, Bool.or_eq_true, Bool.or_eq_true, Bool.and_eq_true, isSome_nextTag?,
    isSome_nextTag?, isSome_firstPlace, isSome_firstPlace]
  constructor
  · rintro ⟨front, content, back, hText, hContent, hAdmits⟩
    rcases marker_in_piece hForeign.opening_ne hInner hForeign.not_opening hText with
      ⟨behind, hOpening, hRest⟩ | ⟨before, hClosing, -⟩
    · rcases marker_in_piece hForeign.closing_ne hInner hForeign.not_closing
        hRest.symm with ⟨tail, rfl, -⟩ | ⟨gap, hClosing, rfl⟩
      -- both markers stand in the opening marker
      · exact .inl (.inl ⟨front, content, tail, hOpening, hContent, hAdmits⟩)
      -- one stands in each marker
      · refine .inr ⟨⟨front, form.opening ++ behind, hOpening, ?_⟩,
          ⟨gap, form.closing ++ back, hClosing,
            isSome_afterMarker?.mpr ⟨back, rfl⟩⟩⟩
        refine isSome_begins?.mpr ⟨behind, rfl, ?_⟩
        by_cases hBehind : behind = []
        · rw [hBehind]
          exact admits_of_head (by simp)
        · rwa [admits_append form hBehind] at hAdmits
    -- both stand in the closing marker
    · exact .inl (.inr ⟨before, content, back, hClosing, hContent, hAdmits⟩)
  · rintro ((hOpening | hClosing) | ⟨⟨front, tail, hOpening, hBegins⟩, gap, rest,
      hClosing, hEnds⟩)
    · obtain ⟨front, content, back, hText, hContent, hAdmits⟩ := hOpening
      refine ⟨front, content, back ++ (inner ++ other.closing), ?_, hContent,
        hAdmits⟩
      rw [hText]
      simp only [List.append_assoc]
    · obtain ⟨front, content, back, hText, hContent, hAdmits⟩ := hClosing
      refine ⟨other.opening ++ (inner ++ front), content, back, ?_, hContent,
        hAdmits⟩
      rw [hText]
      simp only [List.append_assoc]
    · obtain ⟨behind, rfl, hAdmits⟩ := isSome_begins?.mp hBegins
      obtain ⟨back, rfl⟩ := isSome_afterMarker?.mp hEnds
      refine ⟨front, behind ++ (inner ++ gap), back, ?_, by simp [hInner], ?_⟩
      · rw [hOpening, hClosing]
        simp only [List.append_assoc]
      · by_cases hBehind : behind = []
        · rw [hBehind, List.nil_append, admits_append form hInner]
          exact admits_of_head hHead
        · rwa [admits_append form hBehind]

/-! ## One tag -/

theorem nextTag?_nil (form : TagForm) : form.nextTag? [] = none := by
  cases hNext : form.nextTag? [] with
  | none => rfl
  | some found =>
      obtain ⟨hText, hInner⟩ := nextTag?_eq_some hNext
      simp [tagText, hInner] at hText

/-- A content without a character of the closing marker ends where that marker
begins. -/
theorem content?_of_foreign {form : TagForm} {inner : Text}
    (hForeign : form.Foreign inner) (hInner : inner ≠ []) (rest : Text) :
    form.content? (inner ++ (form.closing ++ rest)) = some (inner, rest) := by
  obtain ⟨x, more, rfl⟩ := List.exists_cons_of_ne_nil hInner
  obtain ⟨y, closing, hClosing⟩ := List.exists_cons_of_ne_nil hForeign.closing_ne
  have hStart : form.closing.head? = some y := by rw [hClosing]; rfl
  have hMore : y ∉ more := fun hMem =>
    hForeign.not_closing y (by rw [hClosing]; exact List.mem_cons_self)
      (List.mem_cons_of_mem x hMem)
  have hSkipped :
      firstPlace (afterMarker? form.closing) (more ++ (form.closing ++ rest)) =
      some (more, rest) := by
    rw [firstPlace_append fun _ hTail hNe =>
        afterMarker?_of_head hStart (head?_of_suffix hMore hTail hNe),
      firstPlace_of_some (afterMarker?_append form.closing rest), Option.map_some,
      List.append_nil]
  rw [List.cons_append, content?, hSkipped]
  rfl

/-- A tag is read where it stands, whatever follows it. -/
theorem tagAt?_tagText {form : TagForm} {inner : Text} (hForeign : form.Foreign inner)
    (hInner : inner ≠ []) (hHead : inner.head? ≠ some '=') (rest : Text) :
    form.tagAt? (form.tagText inner ++ rest) = some (inner, rest) := by
  rw [tagText, List.append_assoc, List.append_assoc, tagAt?, afterMarker?_append]
  simp only [admits_append form hInner, admits_of_head hHead, if_true,
    content?_of_foreign hForeign hInner]

/-- A tag by itself is read as that tag. -/
theorem segments_tagText {form : TagForm} {inner : Text} (hForeign : form.Foreign inner)
    (hInner : inner ≠ []) (hHead : inner.head? ≠ some '=') (variant : Variant) :
    form.segments variant (form.tagText inner) = [.tag (some inner) variant] := by
  have hTag := tagAt?_tagText hForeign hInner hHead []
  rw [List.append_nil] at hTag
  have hNext : form.nextTag? (form.tagText inner) = some ([], inner, []) :=
    firstPlace_of_some hTag
  rw [segments, hNext]
  simp only [segmentsBehind_of_some hNext, segmentsBehind_of_none (nextTag?_nil form)]
  rfl

/-- Where the first pass finds nothing, the second one reads the text. -/
theorem twoTier_of_none {safe : TagForm} {text : Text}
    (hNone : safe.nextTag? text = none) (escaped : TagForm) :
    twoTier safe escaped text = escaped.segments .escaped text := by
  rw [twoTier, segments, hNone]
  exact List.flatMap_singleton ..

/-- Where the first pass finds a tag, there is a safe tag. -/
theorem mem_twoTier_of_isSome {safe : TagForm} {text : Text}
    (hSome : (safe.nextTag? text).isSome = true) (escaped : TagForm) :
    ∃ inner, Segment.tag (some inner) .safe ∈ twoTier safe escaped text := by
  obtain ⟨⟨skipped, inner, after⟩, hNext⟩ := Option.isSome_iff_exists.mp hSome
  refine ⟨inner, List.mem_flatMap.mpr ⟨.tag (some inner) .safe, ?_,
    List.mem_singleton_self _⟩⟩
  rw [segments, hNext]
  simp only [segmentsBehind_of_some hNext]
  exact List.mem_append_right _ List.mem_cons_self

end TagForm

/-! ## Marker sets with two pairs -/

/-- The markers of a set that is made of two plain pairs. -/
theorem markers_of_make {markers : MarkerSet} {escaped safe : PlainPair}
    (hMade : MarkerSet.make (.literal escaped.opening) (.literal escaped.closing)
      (some (.literal safe.opening)) (some (.literal safe.closing)) = .ok markers) :
    markers.escaped = escaped.markers ∧ markers.safe = some safe.markers := by
  simp only [MarkerSet.make, MarkerSet.double] at hMade
  split at hMade
  · cases hMade
  · split at hMade
    · cases hMade
    · rw [← Except.ok.inj hMade]
      exact ⟨rfl, rfl⟩

/-- The two passes of any two plain pairs that a marker set can be made of, on
a tag of either pair whose content has no character of a marker.

A safe tag stays the safe tag.  An escaped tag stays the escaped tag exactly if
the safe markers do not claim it, and if they do, a part of it is written as it is. -/
theorem escaped_tags_stay_escaped_iff {markers : MarkerSet} {escaped safe : PlainPair}
    {inner : Text}
    (hMade : MarkerSet.make (.literal escaped.opening) (.literal escaped.closing)
      (some (.literal safe.opening)) (some (.literal safe.closing)) = .ok markers)
    (hEscaped : escaped.form.Foreign inner) (hSafe : safe.form.Foreign inner)
    (hInner : inner ≠ []) (hHead : inner.head? ≠ some '=') :
    ∃ escapedMatcher safeMatcher,
      markers.compileMatchers = .ok ⟨escapedMatcher, some safeMatcher⟩ ∧
      recompose safeMatcher escapedMatcher (safe.opening ++ inner ++ safe.closing) =
        .ok [.tag (some inner) .safe] ∧
      ∃ segments,
        recompose safeMatcher escapedMatcher
          (escaped.opening ++ inner ++ escaped.closing) = .ok segments ∧
        (segments = [.tag (some inner) .escaped] ↔
          safe.form.claims escaped.form = false) ∧
        (safe.form.claims escaped.form = true →
          ∃ content, .tag (some content) .safe ∈ segments) := by
  obtain ⟨hFirst, hSecond⟩ := markers_of_make hMade
  have hMatchers := @compileMatchers_of_plain markers escaped (some safe) hFirst hSecond
  have hClaims : (safe.form.nextTag? (escaped.form.tagText inner)).isSome = true ↔
      safe.form.claims escaped.form = true :=
    TagForm.isSome_nextTag?.trans (TagForm.hasTag_tagText hSafe hInner hHead)
  refine ⟨_, _, hMatchers, ?_, _, TagForm.recompose_matcher safe.form escaped.form _,
    ?_, ?_⟩
  · have hOwn := TagForm.segments_tagText hSafe hInner hHead .safe
    refine (TagForm.recompose_matcher safe.form escaped.form _).trans
      (congrArg Except.ok ?_)
    change (safe.form.segments .safe (safe.form.tagText inner)).flatMap _ = _
    rw [hOwn]
    rfl
  · change TagForm.twoTier safe.form escaped.form (escaped.form.tagText inner) = _ ↔
      _
    constructor
    · intro hEscapedTag
      rw [Bool.eq_false_iff]
      intro hClaimed
      obtain ⟨content, hMem⟩ :=
        TagForm.mem_twoTier_of_isSome (hClaims.mpr hClaimed) escaped.form
      rw [hEscapedTag, List.mem_singleton] at hMem
      cases hMem
    · intro hFree
      have hNone : safe.form.nextTag? (escaped.form.tagText inner) = none := by
        rw [← Option.not_isSome_iff_eq_none, hClaims, hFree]
        exact Bool.false_ne_true
      rw [TagForm.twoTier_of_none hNone]
      exact TagForm.segments_tagText hEscaped hInner hHead .escaped
  · exact fun hClaimed =>
      TagForm.mem_twoTier_of_isSome (hClaims.mpr hClaimed) escaped.form

/-- Safe markers around the escaped ones claim no escaped tag. -/
theorem escaped_tags_stay_escaped_around :
    let escaped : PlainPair := ⟨"<%".toList, "%>".toList⟩
    let safe : PlainPair := ⟨"<<%".toList, "%>>".toList⟩
    ∃ markers, MarkerSet.make (.literal escaped.opening) (.literal escaped.closing)
        (some (.literal safe.opening)) (some (.literal safe.closing)) = .ok markers ∧
      escaped.form.Foreign " html ".toList ∧ safe.form.Foreign " html ".toList ∧
      ∃ escapedMatcher safeMatcher,
        markers.compileMatchers = .ok ⟨escapedMatcher, some safeMatcher⟩ ∧
        recompose safeMatcher escapedMatcher "<<% html %>>".toList =
          .ok [.tag (some " html ".toList) .safe] ∧
        recompose safeMatcher escapedMatcher "<% html %>".toList =
          .ok [.tag (some " html ".toList) .escaped] := by
  intro escaped safe
  have hEscaped : escaped.form.Foreign " html ".toList :=
    ⟨by decide, by decide, TagForm.apart_of_all (by decide),
      TagForm.apart_of_all (by decide)⟩
  have hSafe : safe.form.Foreign " html ".toList :=
    ⟨by decide, by decide, TagForm.apart_of_all (by decide),
      TagForm.apart_of_all (by decide)⟩
  have hFree : safe.form.claims escaped.form = false := by decide
  refine ⟨_, rfl, hEscaped, hSafe, ?_⟩
  obtain ⟨escapedMatcher, safeMatcher, hMatchers, hOwn, segments, hOther, hIff,
    -⟩ := escaped_tags_stay_escaped_iff rfl hEscaped hSafe (by decide) (by decide)
  rw [hIff.mpr hFree] at hOther
  exact ⟨escapedMatcher, safeMatcher, hMatchers, hOwn, hOther⟩

/-- Safe markers inside the escaped ones make a marker set, and claim its
escaped tags: what is written as an escaped tag is read as a safe one. -/
theorem nested_markers_claim_escaped_tags :
    ∃ markers, MarkerSet.make (.literal "<%".toList) (.literal "%>".toList)
        (some (.literal "<".toList)) (some (.literal ">".toList)) = .ok markers ∧
      (∀ x ∈ "<%".toList ++ "%>".toList ++ "<".toList ++ ">".toList,
        x ∉ "html".toList) ∧
      "html".toList ≠ [] ∧ "html".toList.head? ≠ some '=' ∧
      ∃ escapedMatcher safeMatcher,
        markers.compileMatchers = .ok ⟨escapedMatcher, some safeMatcher⟩ ∧
        recompose safeMatcher escapedMatcher
          ("<%".toList ++ "html".toList ++ "%>".toList) =
          .ok [.tag (some "%html%".toList) .safe] ∧
        recompose safeMatcher escapedMatcher
          ("<%".toList ++ "html".toList ++ "%>".toList) ≠
          .ok [.tag (some "html".toList) .escaped] := by
  let escaped : PlainPair := ⟨"<%".toList, "%>".toList⟩
  let safe : PlainPair := ⟨"<".toList, ">".toList⟩
  have hMatchers :=
    @compileMatchers_of_plain ⟨escaped.markers, some safe.markers, by decide⟩
    escaped (some safe) rfl rfl
  have hRead := TagForm.recompose_matcher (PlainPair.form ⟨"<".toList, ">".toList⟩)
    (PlainPair.form ⟨"<%".toList, "%>".toList⟩)
    ("<%".toList ++ "html".toList ++ "%>".toList)
  have hSegments : TagForm.twoTier (PlainPair.form ⟨"<".toList, ">".toList⟩)
      (PlainPair.form ⟨"<%".toList, "%>".toList⟩)
      ("<%".toList ++ "html".toList ++ "%>".toList) =
        [.tag (some "%html%".toList) .safe] := by
    decide +kernel
  rw [hSegments] at hRead
  refine ⟨_, rfl, TagForm.apart_of_all (by decide), by decide, by decide, _, _,
    hMatchers, hRead, ?_⟩
  rw [hRead]
  intro hEqual
  have hVariant : Variant.safe = Variant.escaped := by
    have hTag := (List.cons.inj (Except.ok.inj hEqual)).1
    injection hTag
  cases hVariant

end Retag

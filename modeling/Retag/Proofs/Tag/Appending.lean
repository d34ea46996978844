import Mathlib.Data.List.DropRight
import Retag.Proofs.Tag.Tiers

/-!
# Text behind a tag

Whether a tag begins at a place, and where it ends, is settled by the text up
to the end of its closing marker; what stands behind that is never looked at.
The same holds for the places before the first tag.  None of them begins a tag
of its own, and no text behind the first tag can change this: an opening marker
there would already have had a closing marker to its right, the one of the
first tag.

So the scan of a text and the scan of a longer text that begins with it agree
up to the last tag of the shorter one.  They may only disagree behind it, where
a marker may be left open, or be cut off by the end of the text.

## Main results

* `TagForm.tagAt?_replace`, `TagForm.nextTag?_replace`: a tag, and the first
  tag of a text, in front of any other text.
* `TagForm.upToLastTag_segmentsBehind`: the segments of a text and of a longer one.
* `appending_keeps_tags`: what a scan finds in a text is found in every longer
  text, at the same place.
-/

namespace Retag

open Segment

/-! ## Markers in front of another text -/

/-- The first place of a marker is the first one whatever follows the marker. -/
theorem firstPlace_afterMarker?_replace {marker text skipped after : Text}
    (hFirst : firstPlace (afterMarker? marker) text = some (skipped, after))
    (rest : Text) :
    firstPlace (afterMarker? marker) (skipped ++ (marker ++ rest)) =
      some (skipped, rest) := by
  obtain ⟨tail, hText, hMarker, hEarlier⟩ := firstPlace_eq_some.mp hFirst
  rw [afterMarker?_eq_some.mp hMarker] at hText
  apply firstPlace_eq_some.mpr
  refine ⟨marker ++ rest, rfl, afterMarker?_append marker rest, ?_⟩
  intro i hi
  apply Option.eq_none_iff_forall_ne_some.mpr
  intro behind hBehind
  have hDrop : (skipped ++ (marker ++ rest)).drop i =
      (skipped.drop i ++ marker) ++ rest := by
    rw [List.drop_append_of_le_length (by omega), List.append_assoc]
  -- the marker would end before the text that was put in, so it stands in the
  -- old text as well
  have hStands : marker <+: (skipped.drop i ++ marker) ++ rest := by
    rw [← hDrop, afterMarker?_eq_some.mp hBehind]
    exact List.prefix_append marker behind
  have hInside : marker <+: skipped.drop i ++ marker := by
    apply List.prefix_of_prefix_length_le hStands (List.prefix_append _ rest)
    rw [List.length_append]
    omega
  obtain ⟨gap, hGap⟩ := hInside
  have hOld : text.drop i = marker ++ (gap ++ after) := by
    rw [hText, List.drop_append_of_le_length (by omega), ← List.append_assoc,
      ← hGap, List.append_assoc]
  have hNone := hEarlier i hi
  rw [hOld, afterMarker?_append] at hNone
  cases hNone

namespace TagForm

/-! ## Tags in front of another text -/

variable {form : TagForm}

/-- A content ends where it ends, whatever follows its closing marker. -/
theorem content?_replace {inside inner after : Text}
    (hContent : form.content? inside = some (inner, after)) (rest : Text) :
    form.content? (inner ++ (form.closing ++ rest)) = some (inner, rest) := by
  cases inside with
  | nil => cases hContent
  | cons x inside =>
      obtain ⟨⟨skipped, behind⟩, hPlace, hEq⟩ :=
        Option.map_eq_some_iff.mp hContent
      obtain ⟨rfl, rfl⟩ := Prod.mk.inj hEq
      show (firstPlace (afterMarker? form.closing)
        (skipped ++ (form.closing ++ rest))).map _ = _
      rw [firstPlace_afterMarker?_replace hPlace]
      rfl

/-- A tag is the same tag whatever follows it. -/
theorem tagAt?_replace {text inner after : Text}
    (hTag : form.tagAt? text = some (inner, after))
    (rest : Text) : form.tagAt? (form.tagText inner ++ rest) = some (inner, rest) := by
  have hInner := (tagAt?_eq_some hTag).2
  unfold tagAt? at hTag
  split at hTag
  · rename_i inside hOpening
    split at hTag
    · rename_i hAdmits
      have hInside := (content?_eq_some hTag).1
      rw [hInside, List.append_assoc, admits_append form hInner] at hAdmits
      have hText : form.tagText inner ++ rest =
          form.opening ++ (inner ++ (form.closing ++ rest)) := by
        simp only [tagText, List.append_assoc]
      rw [hText, tagAt?, afterMarker?_append]
      simp only [admits_append form hInner, hAdmits, if_true]
      exact content?_replace hTag rest
    · cases hTag
  · cases hTag

/-- Where an opening marker stands before a tag, it begins a tag: the closing
marker of the tag behind it is one for it, too. -/
theorem isSome_tagAt?_before {front inner rest : Text} (hFront : front ≠ [])
    (hInner : inner ≠ [])
    (hTag : (form.tagAt? (front ++ (form.tagText inner ++ rest))).isSome = true)
    (other : Text) :
    (form.tagAt? (front ++ (form.tagText inner ++ other))).isSome = true := by
  obtain ⟨content, back, hText, hContent, hAdmits⟩ := isSome_tagAt?.mp hTag
  have hSplit : ∀ behind, front ++ (form.tagText inner ++ behind) =
      (front ++ form.opening) ++ (inner ++ (form.closing ++ behind)) := by
    intro behind
    simp only [tagText, List.append_assoc]
  rw [hSplit] at hText
  have hStands : form.opening <+:
      (front ++ form.opening) ++ (inner ++ (form.closing ++ rest)) := by
    rw [hText]
    exact List.prefix_append form.opening _
  have hOpening : form.opening <+: front ++ form.opening := by
    apply List.prefix_of_prefix_length_le hStands (List.prefix_append _ _)
    rw [List.length_append]
    omega
  obtain ⟨gap, hGap⟩ := hOpening
  have hGapNe : gap ≠ [] := by
    intro hNil
    have hLength := congrArg List.length hGap
    have hPos := List.length_pos_iff.mpr hFront
    rw [hNil, List.append_nil, List.length_append] at hLength
    omega
  -- what follows the marker is the same in both texts, and it is not empty
  have hSame : gap ++ (inner ++ (form.closing ++ rest)) =
      content ++ (form.closing ++ back) := by
    rw [← hGap, List.append_assoc] at hText
    exact List.append_cancel_left hText
  have hGapAdmits : form.admits gap = true := by
    rw [← admits_append form hGapNe, hSame, admits_append form hContent]
    exact hAdmits
  apply isSome_tagAt?.mpr
  refine ⟨gap ++ inner, other, ?_, by simp [hInner], ?_⟩
  · rw [hSplit, ← hGap]
    simp only [List.append_assoc]
  · rw [admits_append form hGapNe]
    exact hGapAdmits

/-- The first tag of a text is the first one whatever follows it. -/
theorem nextTag?_replace {text skipped inner after : Text}
    (hNext : form.nextTag? text = some (skipped, inner, after)) (rest : Text) :
    form.nextTag? (skipped ++ (form.tagText inner ++ rest)) =
      some (skipped, inner, rest) := by
  obtain ⟨tail, hText, hTag, hEarlier⟩ := firstPlace_eq_some.mp hNext
  obtain ⟨hTail, hInner⟩ := tagAt?_eq_some hTag
  rw [hTail] at hText
  apply firstPlace_eq_some.mpr
  refine ⟨form.tagText inner ++ rest, rfl, tagAt?_replace hTag rest, ?_⟩
  intro i hi
  have hNone := hEarlier i hi
  have hFront : skipped.drop i ≠ [] := by
    intro hNil
    have hLength := List.drop_eq_nil_iff.mp hNil
    omega
  rw [hText, List.drop_append_of_le_length (by omega)] at hNone
  rw [List.drop_append_of_le_length (by omega)]
  by_contra hSome
  have hBefore :=
    isSome_tagAt?_before hFront hInner (Option.isSome_iff_ne_none.mpr hSome) after
  rw [hNone] at hBefore
  cases hBefore

/-- The first tag of a text is the first one of every longer text. -/
theorem nextTag?_longer {text skipped inner after : Text}
    (hNext : form.nextTag? text = some (skipped, inner, after)) (more : Text) :
    form.nextTag? (text ++ more) = some (skipped, inner, after ++ more) := by
  have hText := (nextTag?_eq_some hNext).1
  rw [hText, List.append_assoc, List.append_assoc]
  exact nextTag?_replace hNext (after ++ more)

end TagForm

/-! ## Segments of a longer text -/

namespace Segment

/-- The segments up to the last tag, and the tag. -/
def upToLastTag (segments : List Segment) : List Segment :=
  segments.rdropWhile fun s => !s.isTag

theorem upToLastTag_append (front : List Segment) (inner : Option Text)
    (variant : Variant) (rest : List Segment) :
    upToLastTag (front ++ .tag inner variant :: rest) =
      front ++ .tag inner variant :: upToLastTag rest := by
  induction rest using List.reverseRecOn with
  | nil =>
      show (front ++ [Segment.tag inner variant]).rdropWhile _ = _
      rw [List.rdropWhile_concat_neg _ _ _ (by simp [isTag])]
      rfl
  | append_singleton rest last ih =>
      have hWhole : front ++ .tag inner variant :: (rest ++ [last]) =
          (front ++ .tag inner variant :: rest) ++ [last] := by
        simp only [List.append_assoc, List.cons_append]
      unfold upToLastTag at ih ⊢
      rw [hWhole, List.rdropWhile_concat, List.rdropWhile_concat, ih]
      split
      · rfl
      · exact hWhole.symm

theorem upToLastTag_literal (text : Text) : upToLastTag [.literal text] = [] := rfl

theorem upToLastTag_literalUnlessEmpty (text : Text) :
    upToLastTag (literalUnlessEmpty text) = [] := by
  unfold literalUnlessEmpty
  split
  · rfl
  · exact upToLastTag_literal text

end Segment

namespace TagForm

variable {form : TagForm} {variant : Variant}

/-- The segments of a text and of a longer one are the same up to the last tag
of the shorter one. -/
theorem upToLastTag_segmentsBehind (text more : Text) :
    upToLastTag (form.segmentsBehind variant text) <+:
      form.segmentsBehind variant (text ++ more) := by
  fun_induction form.segmentsBehind variant text with
  | case1 text hNext =>
      rw [upToLastTag_literalUnlessEmpty]
      exact List.nil_prefix
  | case2 text skipped inner after hNext ih =>
      rw [segmentsBehind_of_some (nextTag?_longer hNext more), upToLastTag_append]
      apply (List.prefix_append_right_inj _).mpr
      exact (List.prefix_cons_inj _).mpr ih

theorem upToLastTag_segments (text more : Text) :
    upToLastTag (form.segments variant text) <+:
      form.segments variant (text ++ more) := by
  have hBehind := @upToLastTag_segmentsBehind form variant text more
  unfold segments
  cases hNext : form.nextTag? text with
  | none =>
      show upToLastTag [.literal text] <+: _
      rw [upToLastTag_literal]
      exact List.nil_prefix
  | some found =>
      rw [nextTag?_longer hNext more]
      exact hBehind

end TagForm

/-- Appending text does not disturb the tags of a text.  Whatever the two
plain markers are, both texts are taken apart, and the segments of the shorter
one up to its last tag begin the segments of the longer one. -/
theorem appending_keeps_tags (pair : PlainPair) :
    ∃ matcher, matcherOf pair.markers.source = .ok matcher ∧
      ∀ variant text more, ∃ segments longer,
        scan matcher variant text = .ok segments ∧
        scan matcher variant (text ++ more) = .ok longer ∧
        upToLastTag segments <+: longer := by
  refine ⟨_, pair.matcherOf_markers, ?_⟩
  intro variant text more
  exact ⟨_, _, TagForm.scan_matcher _ variant text,
    TagForm.scan_matcher _ variant (text ++ more),
    TagForm.upToLastTag_segments text more⟩

end Retag

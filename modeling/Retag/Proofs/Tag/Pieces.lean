import Retag.Cache
import Retag.Proofs.Computation
import Retag.Proofs.Regex.Forward

/-!
# Segments are pieces of the text

Whatever the expressions of the markers are, a text is taken apart into
pieces of itself: the literal segments are what stands between the matches,
and a tag's content is a group of its match.  So a character that the text
does not have is in none of its segments.

## Main results

* `mem_text_of_scan`, `mem_text_of_segmentsOf`: characters of segments are
  characters of the text.
-/

namespace Retag

open Regex Text

/-- The text that a segment has from the template. -/
def Segment.own : Segment → Text
  | .literal text => text
  | .tag inner _ => inner.getD []

variable {x : Char} {s : Segment}

theorem mem_own_literalUnlessEmpty {text : Text}
    (hSegment : s ∈ literalUnlessEmpty text) (hMem : x ∈ s.own) : x ∈ text := by
  unfold literalUnlessEmpty at hSegment
  split at hSegment
  · cases hSegment
  · rw [List.mem_singleton.mp hSegment] at hMem
    exact hMem

/-- The segments around matches are pieces of the text of the matches. -/
theorem mem_text_of_segmentsFrom {variant : Variant} {c : Cursor} {found : List Match}
    (hOrdered : Ordered c found) (hSegment : s ∈ segmentsFrom variant c found)
    (hMem : x ∈ s.own) : x ∈ c.text := by
  induction hOrdered with
  | nil c =>
      exact Cursor.mem_text_of_mem_rest (mem_own_literalUnlessEmpty hSegment hMem)
  | @cons c m more hAhead hMore ih =>
      rw [segmentsFrom, List.mem_append, List.mem_cons] at hSegment
      rcases hSegment with hBefore | rfl | hBehind
      · exact Cursor.mem_text_of_mem_upTo (mem_own_literalUnlessEmpty hBefore hMem)
      · cases hGroup : m.group? 1 with
        | none =>
            rw [hGroup] at hMem
            cases hMem
        | some inner =>
            rw [hGroup] at hMem
            exact mem_text_of_mem_group hAhead.inside hGroup hMem
      · rw [← hAhead.text_stop]
        exact ih hBehind

theorem mem_text_of_scan {matcher : Regex} {variant : Variant} {text : Text}
    {segments : List Segment} (hScan : scan matcher variant text = .ok segments)
    (hSegment : s ∈ segments) (hMem : x ∈ s.own) : x ∈ text := by
  unfold scan at hScan
  split at hScan
  · rw [← Except.ok.inj hScan, List.mem_singleton] at hSegment
    rw [hSegment] at hMem
    exact hMem
  · split at hScan
    · cases hScan
    · rw [← Except.ok.inj hScan] at hSegment
      exact mem_text_of_segmentsFrom (ordered_matchesIn matcher.node text) hSegment hMem

theorem mem_piece_of_refine {matcher : Regex} {pieces segments : List Segment}
    (hRefine : Retag.refine matcher pieces = .ok segments) (hSegment : s ∈ segments)
    (hMem : x ∈ s.own) : ∃ piece ∈ pieces, x ∈ piece.own := by
  induction pieces generalizing segments with
  | nil =>
      rw [← Except.ok.inj hRefine] at hSegment
      cases hSegment
  | cons piece pieces ih =>
      cases piece with
      | literal text =>
          obtain ⟨here, hScan, hRest⟩ := bind_eq_ok hRefine
          obtain ⟨behind, hBehind, hAll⟩ := bind_eq_ok hRest
          rw [← Except.ok.inj hAll] at hSegment
          rcases List.mem_append.mp hSegment with hHere | hLater
          · exact ⟨_, List.mem_cons_self, mem_text_of_scan hScan hHere hMem⟩
          · obtain ⟨other, hOther, hFound⟩ := ih hBehind hLater
            exact ⟨other, List.mem_cons_of_mem _ hOther, hFound⟩
      | tag inner variant =>
          obtain ⟨behind, hBehind, hAll⟩ := bind_eq_ok hRefine
          rw [← Except.ok.inj hAll] at hSegment
          rcases List.mem_cons.mp hSegment with rfl | hLater
          · exact ⟨_, List.mem_cons_self, hMem⟩
          · obtain ⟨other, hOther, hFound⟩ := ih hBehind hLater
            exact ⟨other, List.mem_cons_of_mem _ hOther, hFound⟩

/-- The segments of a template are pieces of it. -/
theorem mem_text_of_segmentsOf {matchers : Matchers} {text : String}
    {segments : List Segment}
    (hSegments : matchers.segmentsOf (.text text) = .ok segments)
    (hSegment : s ∈ segments) (hMem : x ∈ s.own) : x ∈ text.toList := by
  have hTaken := orFail_eq_ok hSegments
  cases hSafe : matchers.safe with
  | none =>
      rw [hSafe] at hTaken
      exact mem_text_of_scan hTaken hSegment hMem
  | some safe =>
      rw [hSafe] at hTaken
      change recompose safe matchers.escaped text.toList = .ok segments at hTaken
      obtain ⟨pieces, hScan, hRefine⟩ := bind_eq_ok hTaken
      obtain ⟨piece, hPiece, hFound⟩ := mem_piece_of_refine hRefine hSegment hMem
      exact mem_text_of_scan hScan hPiece hFound

end Retag

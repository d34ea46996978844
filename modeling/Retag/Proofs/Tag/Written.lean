import Mathlib.Data.List.Chain
import Mathlib.Data.List.Infix
import Retag.Proofs.Tag.Spelling
import Retag.Proofs.Tag.Tiers

/-!
# Reading written templates back

Segments are written as a template with their tags between markers, and read
back from it with the same markers.  What is written comes out again if no text
or content has a character of a marker, because then a marker can only be found
where markers were written: inside one of them, or across two that touch.

With one pair of markers that is no danger.  The reading is always at the start
of a segment, so an opening marker is taken where it was written, and a closing
marker before any that overlaps it.

With two pairs the reading of safe tags goes through the escaped ones.  It must
not find a safe opening marker in one of their markers, nor across a closing
marker and the opening marker of the tag behind it; `TagForm.KeepsOff` says so.
Then it stops at the safe tags, and what it leaves between them is written with
one pair of markers.

## Main results

* `TagForm.segmentsBehind_written`: one pair of markers.
* `TagForm.nextTag?_safe_append`: what the reading of safe tags skips.
* `TagForm.twoTier_written`: two pairs of markers.
* `written_segments_read_back`: what is read from written segments.
-/

namespace Retag

open Segment

/-! ## Segments that can be read back -/

namespace TagForm

/-- A text in which no tag of a form can begin. -/
structure Clear (form : TagForm) (text : Text) : Prop where
  opening_ne : form.opening ≠ []
  not_opening : ∀ x ∈ form.opening, x ∉ text

theorem Foreign.clear {form : TagForm} {inner : Text} (hForeign : form.Foreign inner) :
    form.Clear inner :=
  ⟨hForeign.opening_ne, hForeign.not_opening⟩

end TagForm

namespace Segment

/-- Literal segments have tags beside them, so none of them runs into another one. -/
abbrev Apart (segments : List Segment) : Prop :=
  segments.IsChain fun s t => s.isTag || t.isTag

/-- Whether a segment is a safe tag. -/
def isSafe : Segment → Bool
  | .tag _ .safe => true
  | _ => false

/-- A segment as it is written with some markers. -/
def written (forms : Variant → TagForm) : Segment → Text
  | .literal text => text
  | .tag inner variant => (forms variant).tagText (inner.getD [])

/-- Segments that are read back where they are written: literal text in which
no tag can begin, and tags with a content that is apart from all markers. -/
inductive Distinct (forms : Variant → TagForm) : Segment → Prop
  | literal {text : Text} (hText : text ≠ [])
      (hClear : ∀ variant, (forms variant).Clear text) :
      Distinct forms (.literal text)
  | tag {inner : Text} (hInner : inner ≠ []) (hHead : inner.head? ≠ some '=')
      (hForeign : ∀ variant, (forms variant).Foreign inner) (variant : Variant) :
      Distinct forms (.tag (some inner) variant)

variable {forms : Variant → TagForm}

theorem Distinct.written_ne_nil {s : Segment} (hDistinct : s.Distinct forms) :
    s.written forms ≠ [] := by
  cases hDistinct with
  | literal hText hClear => exact hText
  | tag hInner hHead hForeign variant => simp [written, TagForm.tagText, hInner]

theorem flatMap_written_ne_nil {segments : List Segment} (hNe : segments ≠ [])
    (hDistinct : ∀ s ∈ segments, s.Distinct forms) :
    segments.flatMap (written forms) ≠ [] := by
  obtain ⟨s, rest, rfl⟩ := List.exists_cons_of_ne_nil hNe
  rw [List.flatMap_cons]
  exact List.append_ne_nil_of_left_ne_nil
    (hDistinct s List.mem_cons_self).written_ne_nil _

/-- Segments whose tags all have contents and forms are spelled as they are written. -/
theorem spellingAll?_written {spelled : TagForms} {segments : List Segment}
    (hDistinct : ∀ s ∈ segments, s.Distinct forms)
    (hForms : ∀ inner variant, .tag inner variant ∈ segments →
      spelled variant = some (forms variant)) :
    spellingAll? spelled segments = some (segments.flatMap (written forms)) := by
  induction segments with
  | nil => rfl
  | cons s rest ih =>
      have hRest := ih (fun t hMem => hDistinct t (List.mem_cons_of_mem _ hMem))
        fun inner variant hMem => hForms inner variant (List.mem_cons_of_mem _ hMem)
      refine spellingAll?_cons ?_ hRest
      cases hDistinct s List.mem_cons_self with
      | literal hText hClear => rfl
      | tag hInner hHead hForeign variant =>
          rw [spelling?, hForms _ variant List.mem_cons_self]
          rfl

end Segment

theorem literalUnlessEmpty_of_ne {text : Text} (hNe : text ≠ []) :
    literalUnlessEmpty text = [.literal text] := by
  unfold literalUnlessEmpty
  rw [if_neg (by simpa using hNe)]

namespace TagForm

/-! ## One pair of markers -/

theorem tagAt?_of_opening {form : TagForm} {text : Text}
    (hOpening : afterMarker? form.opening text = none) : form.tagAt? text = none := by
  rw [tagAt?, hOpening]

/-- The reading skips text in which no tag can begin. -/
theorem nextTag?_append {form : TagForm} {text : Text} (hClear : form.Clear text)
    (rest : Text) :
    form.nextTag? (text ++ rest) =
      (form.nextTag? rest).map fun place => (text ++ place.1, place.2) := by
  obtain ⟨x, more, hOpening⟩ := List.exists_cons_of_ne_nil hClear.opening_ne
  have hStart : form.opening.head? = some x := by rw [hOpening]; rfl
  have hNot : x ∉ text :=
    hClear.not_opening x (by rw [hOpening]; exact List.mem_cons_self)
  exact firstPlace_append fun _ hTail hNe =>
    tagAt?_of_opening (afterMarker?_of_head hStart (head?_of_suffix hNot hTail hNe))

/-- A text is taken apart behind its tags as it is taken apart from its
beginning, unless it is empty. -/
theorem segments_of_ne_nil {form : TagForm} {variant : Variant} {text : Text}
    (hNe : text ≠ []) :
    form.segments variant text = form.segmentsBehind variant text := by
  unfold segments
  cases hNext : form.nextTag? text with
  | none =>
      rw [segmentsBehind_of_none hNext, literalUnlessEmpty_of_ne hNe]
  | some found => rfl

variable {forms : Variant → TagForm}

/-- Text in which no tag can begin is a literal segment in front of a tag. -/
theorem segmentsBehind_append {form : TagForm} {variant : Variant}
    {front text inner after : Text} (hClear : form.Clear front) (hNe : front ≠ [])
    (hTag : form.tagAt? text = some (inner, after)) :
    form.segmentsBehind variant (front ++ text) =
      .literal front :: form.segmentsBehind variant text := by
  have hText : form.nextTag? text = some ([], inner, after) := firstPlace_of_some hTag
  have hWhole : form.nextTag? (front ++ text) = some (front, inner, after) := by
    rw [nextTag?_append hClear, hText, Option.map_some, List.append_nil]
  rw [segmentsBehind_of_some hWhole, segmentsBehind_of_some hText,
    literalUnlessEmpty_of_ne hNe]
  rfl

/-- Segments without safe tags are read back with the escaped markers. -/
theorem segmentsBehind_written {pieces : List Segment}
    (hDistinct : ∀ s ∈ pieces, s.Distinct forms)
    (hEscaped : ∀ s ∈ pieces, s.isSafe = false) (hApart : Apart pieces) :
    (forms .escaped).segmentsBehind .escaped (pieces.flatMap (written forms)) =
      pieces := by
  induction pieces with
  | nil => exact segmentsBehind_of_none (nextTag?_nil _)
  | cons s pieces ih =>
      have hLater := ih (fun t hMem => hDistinct t (List.mem_cons_of_mem _ hMem))
        (fun t hMem => hEscaped t (List.mem_cons_of_mem _ hMem)) hApart.of_cons
      rw [List.flatMap_cons]
      cases hDistinct s List.mem_cons_self with
      | tag hInner hHead hForeign variant =>
          cases variant with
          | safe => exact Bool.noConfusion (hEscaped _ List.mem_cons_self)
          | escaped =>
              have hTag := tagAt?_tagText (hForeign .escaped) hInner hHead
                (pieces.flatMap (written forms))
              have hNext := firstPlace_of_some hTag
              rw [written, Option.getD_some, segmentsBehind_of_some hNext, hLater]
              rfl
      | literal hText hClear =>
          cases pieces with
          | nil =>
              have hNone := nextTag?_append (hClear .escaped) []
              rw [nextTag?_nil, Option.map_none] at hNone
              rw [written, List.flatMap_nil, segmentsBehind_of_none hNone,
                List.append_nil, literalUnlessEmpty_of_ne hText]
          | cons t pieces =>
              cases hDistinct t (List.mem_cons_of_mem _ List.mem_cons_self) with
              | literal hText hClear => exact absurd hApart.rel (by simp [isTag])
              | @tag inner hInner hHead hForeign variant =>
                  cases variant with
                  | safe =>
                      exact Bool.noConfusion
                        (hEscaped _ (List.mem_cons_of_mem _ List.mem_cons_self))
                  | escaped =>
                      have hTag :
                          (forms .escaped).tagAt? ((Segment.tag (some inner) .escaped ::
                          pieces).flatMap (written forms)) =
                            some (inner, pieces.flatMap (written forms)) :=
                        tagAt?_tagText (hForeign .escaped) hInner hHead _
                      rw [written, segmentsBehind_append (hClear .escaped) hText hTag,
                        hLater]

/-! ## Two pairs of markers -/

/-- Safe markers that keep off the escaped ones: their opening marker stands
nowhere in an escaped closing marker with an escaped opening marker behind it,
and only at the end of one with a safe opening marker behind it. -/
structure KeepsOff (safe escaped : TagForm) : Prop where
  not_inside : ¬ safe.opening <:+: escaped.closing ++ escaped.opening
  only_last : ∀ front back,
    escaped.closing ++ safe.opening = front ++ (safe.opening ++ back) → back = []

/-- Where a text ends in a marker, it stands only there if it stands at no
earlier place. -/
theorem only_last_iff (front marker : Text) :
    (∀ before back, front ++ marker = before ++ (marker ++ back) → back = []) ↔
      ∀ i < front.length, ¬ marker <+: (front ++ marker).drop i := by
  constructor
  · rintro hLast i hi ⟨back, hBack⟩
    have hText : front ++ marker = (front ++ marker).take i ++ (marker ++ back) := by
      rw [hBack, List.take_append_drop]
    have hLength := congrArg List.length hText
    rw [hLast _ _ hText, List.append_nil] at hLength
    simp only [List.length_append, List.length_take] at hLength
    omega
  · intro hEarlier before back hText
    refine Decidable.byContradiction fun hBack =>
      hEarlier before.length ?_ ⟨back, ?_⟩
    · have hPos := List.length_pos_iff.mpr hBack
      have hLength := congrArg List.length hText
      simp only [List.length_append] at hLength
      omega
    · rw [hText, List.drop_left]

instance (safe escaped : TagForm) : Decidable (safe.KeepsOff escaped) :=
  decidable_of_iff (¬ safe.opening <:+: escaped.closing ++ escaped.opening ∧
      ∀ i < escaped.closing.length, ¬ safe.opening <+:
        (escaped.closing ++ safe.opening).drop i)
    ⟨fun ⟨hInside, hLast⟩ => ⟨hInside, (only_last_iff _ _).mpr hLast⟩,
      fun ⟨hInside, hLast⟩ => ⟨hInside, (only_last_iff _ _).mp hLast⟩⟩

/-- A marker that has no character of a text does not reach into it. -/
theorem prefix_of_prefix_append {marker front inner rest : Text} (hInner : inner ≠ [])
    (hShared : ∀ x ∈ marker, x ∉ inner)
    (hPrefix : marker <+: front ++ (inner ++ rest)) :
    marker <+: front := by
  by_cases hMarker : marker = []
  · rw [hMarker]
    exact List.nil_prefix
  · obtain ⟨back, hText⟩ := hPrefix
    have hSplit : front ++ (inner ++ rest) = [] ++ (marker ++ back) := hText.symm
    rcases marker_in_piece hMarker hInner hShared hSplit with
      ⟨behind, hFront, -⟩ | ⟨before, -, hNil⟩
    · exact ⟨behind, hFront.symm⟩
    · exact absurd
        (List.append_eq_nil_iff.mp (List.append_eq_nil_iff.mp hNil.symm).2).1 hInner

/-- Written segments begin with an opening marker or with nothing that an
opening marker in front of them could reach into. -/
theorem begins_written {rest : List Segment}
    (hDistinct : ∀ s ∈ rest, s.Distinct forms) (variant : Variant) :
    ∃ first behind, rest.flatMap (written forms) = first ++ behind ∧
      (first = [] ∨ ∃ other, first = (forms other).opening) ∧
      ∀ front, (forms variant).opening <+: front ++ behind →
      (forms variant).opening <+: front := by
  cases rest with
  | nil =>
      refine ⟨[], [], rfl, .inl rfl, fun front hPrefix => ?_⟩
      rw [List.append_nil] at hPrefix
      exact hPrefix
  | cons s rest =>
      rw [List.flatMap_cons]
      cases hDistinct s List.mem_cons_self with
      | literal hText hClear =>
          exact ⟨[], _, rfl, .inl rfl, fun front =>
            prefix_of_prefix_append hText (hClear variant).not_opening⟩
      | @tag inner hInner hHead hForeign other =>
          refine ⟨(forms other).opening,
            inner ++ ((forms other).closing ++ rest.flatMap (written forms)), ?_,
            .inr ⟨other, rfl⟩, fun front =>
              prefix_of_prefix_append hInner (hForeign variant).not_opening⟩
          simp only [written, tagText, Option.getD_some, List.append_assoc]

/-- No safe tag begins in an escaped closing marker. -/
theorem tagAt?_closing (hKeeps : (forms .safe).KeepsOff (forms .escaped))
    {rest : List Segment} (hDistinct : ∀ s ∈ rest, s.Distinct forms) {tail : Text}
    (hTail : tail <:+ (forms .escaped).closing) (hNe : tail ≠ []) :
    (forms .safe).tagAt? (tail ++ rest.flatMap (written forms)) = none := by
  refine tagAt?_of_opening ?_
  cases hAfter :
      afterMarker? (forms .safe).opening (tail ++ rest.flatMap (written forms)) with
  | none => rfl
  | some behind =>
      obtain ⟨front, hClosing⟩ := hTail
      obtain ⟨first, later, hRest, hFirst, hReach⟩ := begins_written hDistinct .safe
      rw [afterMarker?_eq_some, hRest, ← List.append_assoc] at hAfter
      obtain ⟨back, hBack⟩ := hReach _ ⟨behind, hAfter.symm⟩
      -- the marker would stand in the closing marker and what is written first
      -- behind it
      have hInside : (forms .escaped).closing ++ first =
          front ++ ((forms .safe).opening ++ back) := by
        rw [← hClosing, List.append_assoc, hBack]
      rcases hFirst with rfl | ⟨variant, rfl⟩
      · refine absurd ?_ hKeeps.not_inside
        rw [List.append_nil] at hInside
        exact ⟨front, back ++ (forms .escaped).opening, by rw [hInside]; simp⟩
      · cases variant with
        | escaped =>
            exact absurd ⟨front, back, by rw [hInside, List.append_assoc]⟩
              hKeeps.not_inside
        | safe =>
            rw [hKeeps.only_last front back hInside, List.append_nil] at hBack
            exact absurd (List.append_left_eq_self.mp hBack.symm) hNe

/-- The reading of safe tags skips escaped tags. -/
theorem nextTag?_safe_tagText (hKeeps : (forms .safe).KeepsOff (forms .escaped))
    {inner : Text} (hInner : inner ≠ []) (hForeign : (forms .safe).Foreign inner)
    {rest : List Segment} (hDistinct : ∀ s ∈ rest, s.Distinct forms) :
    (forms .safe).nextTag? ((forms .escaped).tagText inner ++
      rest.flatMap (written forms)) =
      ((forms .safe).nextTag? (rest.flatMap (written forms))).map
        fun place => ((forms .escaped).tagText inner ++ place.1, place.2) := by
  have hOpening : ∀ behind,
    (forms .safe).nextTag? ((forms .escaped).opening ++ (inner ++ behind)) =
      ((forms .safe).nextTag? (inner ++ behind)).map
        fun place => ((forms .escaped).opening ++ place.1, place.2) := by
    intro behind
    refine firstPlace_append fun tail hTail hNe => tagAt?_of_opening ?_
    cases hAfter : afterMarker? (forms .safe).opening (tail ++ (inner ++ behind)) with
    | none => rfl
    | some later =>
        have hPrefix := prefix_of_prefix_append hInner hForeign.not_opening
          ⟨later, (afterMarker?_eq_some.mp hAfter).symm⟩
        exact absurd ((hPrefix.isInfix.trans hTail.isInfix).trans
          (List.suffix_append _ _).isInfix) hKeeps.not_inside
  have hClosing :
      (forms .safe).nextTag? ((forms .escaped).closing ++
        rest.flatMap (written forms)) =
      ((forms .safe).nextTag? (rest.flatMap (written forms))).map
        fun place => ((forms .escaped).closing ++ place.1, place.2) :=
    firstPlace_append fun tail hTail hNe => tagAt?_closing hKeeps hDistinct hTail hNe
  rw [tagText, List.append_assoc, List.append_assoc, hOpening,
    nextTag?_append hForeign.clear, hClosing, Option.map_map, Option.map_map]
  simp only [Function.comp_def, List.append_assoc]

/-- The reading of safe tags skips everything else. -/
theorem nextTag?_safe_append (hKeeps : (forms .safe).KeepsOff (forms .escaped))
    {front rest : List Segment} (hDistinct : ∀ s ∈ front ++ rest, s.Distinct forms)
    (hEscaped : ∀ s ∈ front, s.isSafe = false) :
    (forms .safe).nextTag? ((front ++ rest).flatMap (written forms)) =
      ((forms .safe).nextTag? (rest.flatMap (written forms))).map
        fun place => (front.flatMap (written forms) ++ place.1, place.2) := by
  induction front with
  | nil => exact Option.map_id'.symm
  | cons s front ih =>
      have hBehind : ∀ t ∈ front ++ rest, t.Distinct forms := fun t hMem =>
        hDistinct t (List.mem_cons_of_mem _ hMem)
      have hLater := ih hBehind fun t hMem => hEscaped t (List.mem_cons_of_mem _ hMem)
      have hHere : (forms .safe).nextTag? (s.written forms ++
          (front ++ rest).flatMap (written forms)) =
            ((forms .safe).nextTag? ((front ++ rest).flatMap (written forms))).map
              fun place => (s.written forms ++ place.1, place.2) := by
        cases hDistinct s List.mem_cons_self with
        | literal hText hClear => exact nextTag?_append (hClear .safe) _
        | tag hInner hHead hForeign variant =>
            cases variant with
            | safe => exact Bool.noConfusion (hEscaped _ List.mem_cons_self)
            | escaped =>
                exact nextTag?_safe_tagText hKeeps hInner (hForeign .safe) hBehind
      rw [List.cons_append, List.flatMap_cons, hHere, hLater, Option.map_map]
      simp only [Function.comp_def, List.append_assoc, List.flatMap_cons]

/-- The second reading, of what the first one left. -/
def refined (form : TagForm) : Segment → List Segment
  | .literal piece => form.segments .escaped piece
  | .tag inner variant => [.tag inner variant]

theorem twoTier_eq (safe escaped : TagForm) (text : Text) :
    twoTier safe escaped text = (safe.segments .safe text).flatMap escaped.refined :=
  rfl

/-- A piece between safe tags is taken apart into the segments that it was
written from. -/
theorem flatMap_refined_piece {pieces : List Segment}
    (hDistinct : ∀ s ∈ pieces, s.Distinct forms)
    (hEscaped : ∀ s ∈ pieces, s.isSafe = false) (hApart : Apart pieces) :
    (literalUnlessEmpty (pieces.flatMap (written forms))).flatMap
      (forms .escaped).refined = pieces := by
  cases pieces with
  | nil => rfl
  | cons s pieces =>
      have hNe := flatMap_written_ne_nil (List.cons_ne_nil s pieces) hDistinct
      rw [literalUnlessEmpty_of_ne hNe, List.flatMap_singleton, refined,
        segments_of_ne_nil hNe, segmentsBehind_written hDistinct hEscaped hApart]

/-- Both readings of segments, the first of which hold no safe tag. -/
theorem flatMap_refined_segmentsBehind
    (hKeeps : (forms .safe).KeepsOff (forms .escaped))
    (front : List Segment) {rest : List Segment}
    (hDistinct : ∀ s ∈ front ++ rest, s.Distinct forms)
    (hEscaped : ∀ s ∈ front, s.isSafe = false) (hApart : Apart (front ++ rest)) :
    ((forms .safe).segmentsBehind .safe
      ((front ++ rest).flatMap (written forms))).flatMap
      (forms .escaped).refined = front ++ rest := by
  induction rest generalizing front with
  | nil =>
      have hNone := nextTag?_safe_append hKeeps hDistinct hEscaped
      rw [List.flatMap_nil, nextTag?_nil, Option.map_none] at hNone
      rw [segmentsBehind_of_none hNone]
      rw [List.append_nil] at hDistinct hApart ⊢
      exact flatMap_refined_piece hDistinct hEscaped hApart
  | cons s rest ih =>
      have hFront : ∀ t ∈ front, t.Distinct forms := fun t hMem =>
        hDistinct t (List.mem_append_left _ hMem)
      cases hSafe : s.isSafe with
      | false =>
          rw [List.append_cons] at hDistinct hApart ⊢
          refine ih (front ++ [s]) hDistinct (fun t hMem => ?_) hApart
          rcases List.mem_append.mp hMem with hOld | hLast
          · exact hEscaped t hOld
          · rw [List.mem_singleton.mp hLast]
            exact hSafe
      | true =>
          cases hDistinct s (List.mem_append_right _ List.mem_cons_self) with
          | literal hText hClear => exact Bool.noConfusion hSafe
          | @tag inner hInner hHead hForeign variant =>
              cases variant with
              | escaped => exact Bool.noConfusion hSafe
              | safe =>
                  have hTag : (forms .safe).nextTag? ((Segment.tag (some inner) .safe ::
                      rest).flatMap (written forms)) =
                        some ([], inner, rest.flatMap (written forms)) :=
                    firstPlace_of_some (tagAt?_tagText (hForeign .safe) hInner hHead _)
                  have hNext := nextTag?_safe_append hKeeps hDistinct hEscaped
                  rw [hTag, Option.map_some, List.append_nil] at hNext
                  have hRest := ih []
                    (fun t hMem => hDistinct t
                      (List.mem_append_right _ (List.mem_cons_of_mem _ hMem)))
                    (fun t hMem => by cases hMem) hApart.right_of_append.of_cons
                  rw [segmentsBehind_of_some hNext, List.flatMap_append,
                    List.flatMap_cons,
                    flatMap_refined_piece hFront hEscaped hApart.left_of_append]
                  exact congrArg (front ++ .tag (some inner) .safe :: ·) hRest

/-- Segments are read back with two pairs of markers. -/
theorem twoTier_written (hKeeps : (forms .safe).KeepsOff (forms .escaped))
    {segments : List Segment} (hNe : segments ≠ [])
    (hDistinct : ∀ s ∈ segments, s.Distinct forms) (hApart : Apart segments) :
    twoTier (forms .safe) (forms .escaped) (segments.flatMap (written forms)) =
      segments := by
  rw [twoTier_eq, segments_of_ne_nil (flatMap_written_ne_nil hNe hDistinct)]
  exact flatMap_refined_segmentsBehind hKeeps [] hDistinct (fun t hMem => by cases hMem)
    hApart

end TagForm

/-! ## Well-formed segments -/

/-- A text without a character of some markers. -/
def AvoidsMarkers (markers : List Text) (text : Text) : Prop :=
  ∀ m ∈ markers, ∀ x ∈ m, x ∉ text

-- the characters are listed, so that no instance looks through all there are
instance (markers : List Text) (text : Text) : Decidable (AvoidsMarkers markers text) :=
  decidable_of_iff (markers.all fun m => m.all (· ∉ text))
    (by simp only [AvoidsMarkers, List.all_eq_true, decide_eq_true_eq])

namespace Segment

/-- A segment that can be written with some markers: its text or content is not
empty and has no character of a marker, and a content does not begin with an
equals sign. -/
def Fits (markers : List Text) : Segment → Prop
  | .literal text => text ≠ [] ∧ AvoidsMarkers markers text
  | .tag none _ => False
  | .tag (some inner) _ =>
      inner ≠ [] ∧ inner.head? ≠ some '=' ∧ AvoidsMarkers markers inner

instance (markers : List Text) : (s : Segment) → Decidable (s.Fits markers)
  | .literal text =>
      inferInstanceAs (Decidable (text ≠ [] ∧ AvoidsMarkers markers text))
  | .tag none _ => inferInstanceAs (Decidable False)
  | .tag (some inner) _ => inferInstanceAs
      (Decidable (inner ≠ [] ∧ inner.head? ≠ some '=' ∧
        AvoidsMarkers markers inner))

/-- Segments that can be written with some markers: at least one, each of them
fit for the markers, and no two literal ones side by side. -/
structure WellFormed (markers : List Text) (segments : List Segment) : Prop where
  markers_ne : ∀ m ∈ markers, m ≠ []
  ne_nil : segments ≠ []
  apart : Apart segments
  fits : ∀ s ∈ segments, s.Fits markers

instance (markers : List Text) (segments : List Segment) :
    Decidable (WellFormed markers segments) :=
  decidable_of_iff ((∀ m ∈ markers, m ≠ []) ∧ segments ≠ [] ∧
    Apart segments ∧
      ∀ s ∈ segments, s.Fits markers)
    ⟨fun ⟨hMarkers, hNe, hApart, hFits⟩ => ⟨hMarkers, hNe, hApart, hFits⟩,
      fun ⟨hMarkers, hNe, hApart, hFits⟩ => ⟨hMarkers, hNe, hApart, hFits⟩⟩

theorem WellFormed.distinct {markers : List Text} {segments : List Segment}
    (hWell : WellFormed markers segments) {forms : Variant → TagForm}
    (hForms : ∀ variant,
      (forms variant).opening ∈ markers ∧ (forms variant).closing ∈ markers) :
    ∀ s ∈ segments, s.Distinct forms := by
  intro s hMem
  have hFits := hWell.fits s hMem
  match s with
  | .literal text =>
      obtain ⟨hText, hAvoids⟩ := hFits
      exact .literal hText fun variant =>
        ⟨hWell.markers_ne _ (hForms variant).1, hAvoids _ (hForms variant).1⟩
  | .tag none variant => exact absurd hFits id
  | .tag (some inner) variant =>
      obtain ⟨hInner, hHead, hAvoids⟩ := hFits
      refine .tag hInner hHead (fun other => ?_) variant
      obtain ⟨hOpening, hClosing⟩ := hForms other
      exact ⟨hWell.markers_ne _ hOpening, hWell.markers_ne _ hClosing,
        hAvoids _ hOpening, hAvoids _ hClosing⟩

end Segment

/-- The forms of the tags of two pairs of markers. -/
def PlainPair.forms (escaped safe : PlainPair) : Variant → TagForm
  | .escaped => escaped.form
  | .safe => safe.form

/-- Well-formed segments are read back from what they are written as: those
without safe tags with any pair of markers, and all of them with any two pairs
of which the safe one keeps off the escaped one. -/
theorem written_segments_read_back (segments : List Segment) :
    (∀ escaped : PlainPair, WellFormed [escaped.opening, escaped.closing] segments →
      (∀ s ∈ segments, s.isSafe = false) →
      ∃ text matcher, spellingAll? (formsOf escaped none) segments = some text ∧
        matcherOf escaped.markers.source = .ok matcher ∧
        scan matcher .escaped text = .ok segments) ∧
    ∀ escaped safe : PlainPair,
      WellFormed [escaped.opening, escaped.closing, safe.opening, safe.closing]
        segments →
      safe.form.KeepsOff escaped.form →
      ∃ text safeMatcher escapedMatcher,
        spellingAll? (formsOf escaped (some safe)) segments = some text ∧
        matcherOf safe.markers.source = .ok safeMatcher ∧
        matcherOf escaped.markers.source = .ok escapedMatcher ∧
        recompose safeMatcher escapedMatcher text = .ok segments := by
  constructor
  · intro escaped hWell hEscaped
    have hDistinct : ∀ s ∈ segments, s.Distinct fun _ => escaped.form :=
      hWell.distinct fun _ =>
      ⟨List.mem_cons_self, List.mem_cons_of_mem _ List.mem_cons_self⟩
    refine ⟨_, _, spellingAll?_written hDistinct fun inner variant hMem => ?_,
      escaped.matcherOf_markers, ?_⟩
    · cases variant with
      | escaped => rfl
      | safe => exact Bool.noConfusion (hEscaped _ hMem)
    · rw [TagForm.scan_matcher,
        TagForm.segments_of_ne_nil
        (Segment.flatMap_written_ne_nil hWell.ne_nil hDistinct)]
      exact congrArg Except.ok
        (TagForm.segmentsBehind_written hDistinct hEscaped hWell.apart)
  · intro escaped safe hWell hKeeps
    have hDistinct : ∀ s ∈ segments, s.Distinct (escaped.forms safe) :=
      hWell.distinct fun variant => by
        cases variant <;> simp [PlainPair.forms, PlainPair.form, TagForm.plain]
    refine ⟨_, _, _, spellingAll?_written hDistinct fun inner variant hMem => ?_,
      safe.matcherOf_markers, escaped.matcherOf_markers, ?_⟩
    · cases variant <;> rfl
    · rw [TagForm.recompose_matcher]
      exact congrArg Except.ok
        (@TagForm.twoTier_written (escaped.forms safe) hKeeps segments hWell.ne_nil
          hDistinct hWell.apart)

/-- Tags that touch, between markers that are one and the same, and between
safe markers around the escaped ones. -/
theorem written_segments_read_back_touching :
    let same : PlainPair := ⟨"%%".toList, "%%".toList⟩
    let escaped : PlainPair := ⟨"<%".toList, "%>".toList⟩
    let safe : PlainPair := ⟨"<<%".toList, "%>>".toList⟩
    let plain : List Segment :=
      [.tag (some "a".toList) .escaped, .tag (some "b".toList) .escaped,
        .literal "= c".toList]
    let mixed : List Segment :=
      [.tag (some "a".toList) .escaped, .tag (some "b".toList) .safe,
        .tag (some "c".toList) .escaped, .literal " = ".toList,
        .tag (some "d".toList) .safe]
    WellFormed [same.opening, same.closing] plain ∧
      WellFormed [escaped.opening, escaped.closing, safe.opening, safe.closing] mixed ∧
      safe.form.KeepsOff escaped.form ∧
      spellingAll? (formsOf same none) plain = some "%%a%%%%b%%= c".toList ∧
      spellingAll? (formsOf escaped (some safe)) mixed =
        some "<%a%><<%b%>><%c%> = <<%d%>>".toList ∧
      ∃ matcher safeMatcher escapedMatcher,
        matcherOf same.markers.source = .ok matcher ∧
        scan matcher .escaped "%%a%%%%b%%= c".toList = .ok plain ∧
        matcherOf safe.markers.source = .ok safeMatcher ∧
        matcherOf escaped.markers.source = .ok escapedMatcher ∧
        recompose safeMatcher escapedMatcher "<%a%><<%b%>><%c%> = <<%d%>>".toList =
          .ok mixed := by
  intro same escaped safe plain mixed
  have hPlain : WellFormed [same.opening, same.closing] plain := by decide +kernel
  have hMixed :
      WellFormed [escaped.opening, escaped.closing, safe.opening, safe.closing]
      mixed := by
    decide +kernel
  have hKeeps : safe.form.KeepsOff escaped.form := by decide +kernel
  have hPlainText : spellingAll? (formsOf same none) plain =
      some "%%a%%%%b%%= c".toList := by
    decide +kernel
  have hMixedText : spellingAll? (formsOf escaped (some safe)) mixed =
      some "<%a%><<%b%>><%c%> = <<%d%>>".toList := by decide +kernel
  obtain ⟨text, matcher, hText, hMatcher, hScan⟩ :=
    (written_segments_read_back plain).1 same hPlain (by decide)
  obtain ⟨other, safeMatcher, escapedMatcher, hOther, hSafe, hEscaped, hRead⟩ :=
    (written_segments_read_back mixed).2 escaped safe hMixed hKeeps
  rw [hPlainText] at hText
  rw [hMixedText] at hOther
  obtain rfl := Option.some.inj hText
  obtain rfl := Option.some.inj hOther
  exact ⟨hPlain, hMixed, hKeeps, hPlainText, hMixedText, matcher, safeMatcher,
    escapedMatcher, hMatcher, hScan, hSafe, hEscaped, hRead⟩

end Retag

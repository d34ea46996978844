import Mathlib.Data.List.Chain
import Retag.Proofs.Computation
import Retag.Proofs.Regex.Successive
import Retag.Proofs.Tag.Written

/-!
# Segments and matches

Whatever the expressions for the tags are, the segments of a text are its
matches and what stands between them.  Matches may be empty, may touch each
other and the ends of the text, and may leave their group out, so the segments
alone do not tell where a tag was found: a `Piece` keeps the match of each tag,
with the stretch of the text that the match is in.

The expression for safe tags is given the whole text, and the one for escaped
tags each stretch that is left, unless it is empty.  If there is no safe tag,
the whole text is left, even if it is empty.

## Main results

* `laid_piecesOf`, `laid_refined`: the pieces are the text, with each tag where
  its match is.
* `neatOrEmpty_piecesOf`, `neatOrEmpty_refined`: no literal segment is empty or
  has another one beside it.
* `hitsOf_refined`: which matches the tags are.
* `segments_around_matches`: all of this for `scan` and `recompose`.
-/

namespace Retag

open Regex Segment Text

/-! ## Pieces -/

/-- A part of a text that is looked through for tags, and what stands before it. -/
structure Stretch where
  before : Text
  text : Text

/-- A match in a stretch of a text. -/
structure Hit where
  stretch : Stretch
  found : Match

namespace Hit

/-- What stands before the match in the whole text. -/
def before (h : Hit) : Text := h.stretch.before ++ h.found.start.before.reverse

/-- The matched text. -/
def text (h : Hit) : Text := h.found.text

end Hit

/-- The matches in a stretch. -/
def Regex.hits (r : Regex) (s : Stretch) : List Hit :=
  (r.matchesIn s.text).map (Hit.mk s)

/-- A piece of a text: what stands between matches, or a match. -/
inductive Piece where
  | gap (text : Text)
  | hit (h : Hit) (variant : Variant)

namespace Piece

def text : Piece → Text
  | .gap text => text
  | .hit h _ => h.text

/-- A match is a tag, and its first group is the content. -/
def segment : Piece → Segment
  | .gap text => .literal text
  | .hit h variant => .tag (h.found.group? 1) variant

end Piece

/-- The matches that are tags of a variant. -/
def hitsOf (variant : Variant) (pieces : List Piece) : List Hit :=
  pieces.filterMap fun
    | .gap _ => none
    | .hit h other => if other = variant then some h else none

/-- What stands between matches is a piece, unless it is empty. -/
def gapUnlessEmpty (text : Text) : List Piece :=
  if text.isEmpty then [] else [.gap text]

/-- The pieces of a stretch from a cursor on, given the matches behind it. -/
def piecesFrom (variant : Variant) (s : Stretch) : Cursor → List Match → List Piece
  | c, [] => gapUnlessEmpty c.rest
  | c, m :: more =>
    gapUnlessEmpty (c.upTo m.start) ++ .hit ⟨s, m⟩ variant ::
      piecesFrom variant s m.stop more

/-- The pieces of a stretch.  Without a match it is one piece, even if it is empty. -/
def piecesOf (r : Regex) (variant : Variant) (s : Stretch) : List Piece :=
  match r.matchesIn s.text with
  | [] => [.gap s.text]
  | found => piecesFrom variant s (.first s.text) found

/-- Looks through the gaps of pieces, of which the first one stands behind the
given text. -/
def refined (r : Regex) : Text → List Piece → List Piece
  | _, [] => []
  | before, .hit h variant :: rest =>
      .hit h variant :: refined r (before ++ h.text) rest
  | before, .gap text :: rest =>
    piecesOf r .escaped ⟨before, text⟩ ++ refined r (before ++ text) rest

/-- The stretches between matches, from a cursor on. -/
def stretchesFrom : Cursor → List Match → List Stretch
  | c, [] => [⟨c.before.reverse, c.rest⟩]
  | c, m :: more => ⟨c.before.reverse, c.upTo m.start⟩ :: stretchesFrom m.stop more

/-- The stretches of a text that are left by matches: those between them that
are not empty, and the whole text if there is no match. -/
def leftOver (text : Text) : List Match → List Stretch
  | [] => [⟨[], text⟩]
  | found => (stretchesFrom (.first text) found).filter fun s => !s.text.isEmpty

section Pieces

variable {r : Regex} {variant other : Variant} {s : Stretch} {c : Cursor}
  {text before : Text}

theorem gapUnlessEmpty_of_ne (hNe : text ≠ []) :
    gapUnlessEmpty text = [.gap text] := by
  unfold gapUnlessEmpty
  rw [if_neg (by simpa using hNe)]

theorem piecesOf_of_nil (hNone : r.matchesIn s.text = []) :
    piecesOf r variant s = [.gap s.text] := by
  unfold piecesOf
  rw [hNone]

theorem piecesOf_of_ne (hFound : r.matchesIn s.text ≠ []) :
    piecesOf r variant s =
      piecesFrom variant s (.first s.text) (r.matchesIn s.text) := by
  unfold piecesOf
  split
  · contradiction
  · rfl

theorem map_segment_gapUnlessEmpty (text : Text) :
    (gapUnlessEmpty text).map Piece.segment = literalUnlessEmpty text := by
  unfold gapUnlessEmpty literalUnlessEmpty
  split <;> rfl

theorem map_segment_piecesFrom (found : List Match) :
    (piecesFrom variant s c found).map Piece.segment =
      segmentsFrom variant c found := by
  induction found generalizing c with
  | nil => exact map_segment_gapUnlessEmpty _
  | cons m more ih =>
      rw [piecesFrom, segmentsFrom, List.map_append, List.map_cons,
        map_segment_gapUnlessEmpty, ih]
      rfl

/-- Scanning gives the pieces of a text as segments. -/
theorem scan_eq (hGroups : 0 < r.groupCount) (variant : Variant) (s : Stretch) :
    scan r variant s.text = .ok ((piecesOf r variant s).map Piece.segment) := by
  have hGroup : (r.groupCount == 0) = false := beq_eq_false_iff_ne.mpr (by omega)
  by_cases hNone : r.matchesIn s.text = []
  · rw [piecesOf_of_nil hNone]
    unfold scan
    rw [hNone]
    rfl
  · rw [piecesOf_of_ne hNone, map_segment_piecesFrom]
    unfold scan
    split
    · contradiction
    · rw [hGroup]
      rfl

theorem refine_eq (hGroups : 0 < r.groupCount) (before : Text) (pieces : List Piece) :
    Retag.refine r (pieces.map Piece.segment) =
      .ok ((refined r before pieces).map Piece.segment) := by
  induction pieces generalizing before with
  | nil => rfl
  | cons piece pieces ih =>
      cases piece with
      | hit h variant =>
          rw [List.map_cons, Piece.segment, Retag.refine, ih (before ++ h.text),
            ok_bind]
          rfl
      | gap text =>
          rw [List.map_cons, Piece.segment, Retag.refine,
            scan_eq hGroups .escaped ⟨before, text⟩, ok_bind, ih (before ++ text),
            ok_bind, refined, List.map_append]
          rfl

/-- Without a safe tag the whole text is looked through for escaped ones. -/
theorem refined_piecesOf_of_nil {safe escaped : Regex} {text : Text}
    (hNone : safe.matchesIn text = []) :
    refined escaped [] (piecesOf safe .safe ⟨[], text⟩) =
      piecesOf escaped .escaped ⟨[], text⟩ := by
  have hWhole : piecesOf safe .safe ⟨[], text⟩ = [.gap text] :=
    piecesOf_of_nil hNone
  rw [hWhole, refined, refined, List.append_nil]

/-- Recomposing gives the refined pieces of a text as segments. -/
theorem recompose_eq {safe escaped : Regex} (hSafe : 0 < safe.groupCount)
    (hEscaped : 0 < escaped.groupCount) (text : Text) :
    recompose safe escaped text =
      .ok ((refined escaped [] (piecesOf safe .safe ⟨[], text⟩)).map
        Piece.segment) := by
  unfold recompose
  rw [scan_eq hSafe .safe ⟨[], text⟩, ok_bind, refine_eq hEscaped []]

/-! ## Where pieces stand -/

/-- Behind a text, pieces make up another one, each tag where its match is. -/
inductive Laid : Text → List Piece → Text → Prop
  | nil (before : Text) : Laid before [] []
  | gap {before text after : Text} {rest : List Piece}
      (hRest : Laid (before ++ text) rest after) :
      Laid before (.gap text :: rest) (text ++ after)
  | hit {before after : Text} {h : Hit} {variant : Variant} {rest : List Piece}
      (hBefore : h.before = before) (hRest : Laid (before ++ h.text) rest after) :
      Laid before (.hit h variant :: rest) (h.text ++ after)

theorem Laid.append {text after : Text} {front back : List Piece}
    (hFront : Laid before front text) (hBack : Laid (before ++ text) back after) :
    Laid before (front ++ back) (text ++ after) := by
  induction hFront with
  | nil before =>
      rw [List.append_nil] at hBack
      exact hBack
  | gap hRest ih =>
      rw [List.append_assoc]
      apply Laid.gap
      apply ih
      rw [List.append_assoc]
      exact hBack
  | hit hBefore hRest ih =>
      rw [List.append_assoc]
      apply Laid.hit hBefore
      apply ih
      rw [List.append_assoc]
      exact hBack

theorem Laid.flatMap_text {pieces : List Piece} (hLaid : Laid before pieces text) :
    pieces.flatMap Piece.text = text := by
  induction hLaid with
  | nil before => rfl
  | gap hRest ih =>
      rw [List.flatMap_cons, ih]
      rfl
  | hit hBefore hRest ih =>
      rw [List.flatMap_cons, ih]
      rfl

/-- The text in front of a tag is what stands before its match. -/
theorem Laid.before_eq {front back : List Piece} {h : Hit}
    (hLaid : Laid before (front ++ .hit h variant :: back) text) :
    h.before = before ++ front.flatMap Piece.text := by
  induction front generalizing before text with
  | nil =>
      cases hLaid with
      | hit hBefore _ => rw [hBefore, List.flatMap_nil, List.append_nil]
  | cons piece front ih =>
      cases hLaid with
      | gap hRest => rw [ih hRest, List.flatMap_cons, List.append_assoc]; rfl
      | hit _ hRest => rw [ih hRest, List.flatMap_cons, List.append_assoc]; rfl

theorem laid_gap (before text : Text) : Laid before [.gap text] text := by
  have hGap : Laid before [.gap text] (text ++ []) := .gap (.nil _)
  rwa [List.append_nil] at hGap

theorem laid_gapUnlessEmpty (before text : Text) :
    Laid before (gapUnlessEmpty text) text := by
  by_cases hNil : text = []
  · rw [hNil]
    exact .nil before
  · rw [gapUnlessEmpty_of_ne hNil]
    exact laid_gap before text

/-- Matches that follow each other leave nothing of the text out. -/
theorem laid_piecesFrom {found : List Match} (hOrdered : Ordered c found) :
    Laid (s.before ++ c.before.reverse) (piecesFrom variant s c found) c.rest := by
  induction hOrdered with
  | nil c => exact laid_gapUnlessEmpty _ _
  | @cons c m more hAhead hMore ih =>
      have hStart : s.before ++ m.start.before.reverse =
          s.before ++ c.before.reverse ++ c.upTo m.start := by
        rw [Cursor.before_of_reaches hAhead.start_reached, List.append_assoc]
      have hStop : s.before ++ m.stop.before.reverse =
          s.before ++ m.start.before.reverse ++ m.text := by
        rw [Cursor.before_of_reaches hAhead.stop_reached, List.append_assoc]
        rfl
      rw [← Cursor.upTo_append_rest hAhead.start_reached,
        ← Cursor.upTo_append_rest hAhead.stop_reached]
      apply (laid_gapUnlessEmpty _ _).append
      rw [← hStart]
      have hBehind : Laid (s.before ++ m.start.before.reverse ++ m.text)
          (piecesFrom variant s m.stop more) m.stop.rest := by
        rw [← hStop]
        exact ih
      exact .hit rfl hBehind

theorem laid_piecesOf (r : Regex) (variant : Variant) (s : Stretch) :
    Laid s.before (piecesOf r variant s) s.text := by
  by_cases hNone : r.matchesIn s.text = []
  · rw [piecesOf_of_nil hNone]
    exact laid_gap s.before s.text
  · rw [piecesOf_of_ne hNone]
    have hLaid := @laid_piecesFrom variant s _ _ (ordered_matchesIn r.node s.text)
    rw [show Cursor.before (.first s.text) = [] from
      rfl, List.reverse_nil, List.append_nil]
      at hLaid
    exact hLaid

/-- Looking through the gaps leaves everything where it is. -/
theorem laid_refined {pieces : List Piece} (hLaid : Laid before pieces text) :
    Laid before (refined r before pieces) text := by
  induction hLaid with
  | nil before => exact .nil before
  | @gap before text after rest hRest ih =>
      exact (laid_piecesOf r .escaped ⟨before, text⟩).append ih
  | hit hBefore hRest ih => exact .hit hBefore ih

end Pieces

/-! ## Neat segments -/

namespace Segment

/-- No literal segment is empty or has another one beside it. -/
structure Neat (segments : List Segment) : Prop where
  apart : Apart segments
  filled : .literal [] ∉ segments

theorem Neat.append {front back : List Segment} (hFront : Neat front)
    (hBack : Neat back)
    (hHead : ∀ s ∈ back.head?, s.isTag = true) : Neat (front ++ back) := by
  constructor
  · apply List.isChain_append.mpr
    refine ⟨hFront.apart, hBack.apart, ?_⟩
    intro s _ t hMem
    rw [hHead t hMem, Bool.or_true]
  · intro hMem
    rcases List.mem_append.mp hMem with hMem | hMem
    · exact hFront.filled hMem
    · exact hBack.filled hMem

theorem Neat.tag {rest : List Segment} (hRest : Neat rest) (inner : Option Text)
    (variant : Variant) : Neat (.tag inner variant :: rest) := by
  constructor
  · apply List.isChain_cons.mpr
    exact ⟨fun _ _ => rfl, hRest.apart⟩
  · intro hMem
    rcases List.mem_cons.mp hMem with hSame | hMem
    · cases hSame
    · exact hRest.filled hMem

theorem neat_literal {text : Text} (hNe : text ≠ []) : Neat [.literal text] := by
  constructor
  · exact List.isChain_singleton _
  · intro hMem
    obtain rfl := Segment.literal.inj (List.mem_singleton.mp hMem)
    exact hNe rfl

end Segment

section Neat

variable {r : Regex} {variant : Variant} {s : Stretch} {c : Cursor}

theorem neat_gapUnlessEmpty (text : Text) :
    Neat ((gapUnlessEmpty text).map Piece.segment) := by
  by_cases hNil : text = []
  · rw [hNil]
    exact ⟨List.isChain_nil, List.not_mem_nil⟩
  · rw [gapUnlessEmpty_of_ne hNil]
    exact neat_literal hNil

theorem neat_piecesFrom (found : List Match) :
    Neat ((piecesFrom variant s c found).map Piece.segment) := by
  induction found generalizing c with
  | nil => exact neat_gapUnlessEmpty _
  | cons m more ih =>
      rw [piecesFrom, List.map_append, List.map_cons]
      apply (neat_gapUnlessEmpty _).append
      · exact ih.tag _ _
      · intro s hMem
        rw [← Option.some.inj hMem]
        rfl

/-- Only a text that is empty and has no match has an empty segment. -/
theorem neat_piecesOf (hSome : s.text ≠ [] ∨ r.matchesIn s.text ≠ []) :
    Neat ((piecesOf r variant s).map Piece.segment) := by
  by_cases hNone : r.matchesIn s.text = []
  · rw [piecesOf_of_nil hNone]
    rcases hSome with hNe | hFound
    · exact neat_literal hNe
    · contradiction
  · rw [piecesOf_of_ne hNone]
    exact neat_piecesFrom _

theorem neatOrEmpty_piecesOf (r : Regex) (variant : Variant) (s : Stretch) :
    (piecesOf r variant s).map Piece.segment = [.literal []] ∨
      Neat ((piecesOf r variant s).map Piece.segment) := by
  by_cases hSome : s.text ≠ [] ∨ r.matchesIn s.text ≠ []
  · exact .inr (neat_piecesOf hSome)
  · simp only [not_or, ne_eq, not_not] at hSome
    left
    rw [piecesOf_of_nil hSome.2, hSome.1]
    rfl

/-- A tag at the head stays there. -/
theorem isTag_head?_refined {pieces : List Piece} {before : Text}
    (hHead : ∀ s ∈ (pieces.map Piece.segment).head?, s.isTag = true) :
    ∀ s ∈ ((refined r before pieces).map Piece.segment).head?, s.isTag = true := by
  cases pieces with
  | nil => exact hHead
  | cons piece rest =>
      cases piece with
      | gap text =>
          have hTag := hHead _ rfl
          cases hTag
      | hit h variant => exact hHead

theorem neat_refined {pieces : List Piece} {before : Text}
    (hNeat : Neat (pieces.map Piece.segment)) :
    Neat ((refined r before pieces).map Piece.segment) := by
  induction pieces generalizing before with
  | nil => exact hNeat
  | cons piece rest ih =>
      have hApart := List.isChain_cons.mp hNeat.apart
      have hRest : Neat (rest.map Piece.segment) :=
        ⟨hApart.2, fun hMem => hNeat.filled (List.mem_cons_of_mem _ hMem)⟩
      cases piece with
      | hit h variant => exact (ih hRest).tag _ _
      | gap text =>
          have hText : text ≠ [] := by
            rintro rfl
            exact hNeat.filled List.mem_cons_self
          rw [refined, List.map_append]
          apply (neat_piecesOf (.inl hText)).append (ih hRest)
          apply isTag_head?_refined
          intro s hMem
          have hBeside := hApart.1 s hMem
          rwa [show (Piece.gap text).segment.isTag = false from
            rfl, Bool.false_or] at hBeside

theorem neatOrEmpty_refined (safe escaped : Regex) (text : Text) :
    (refined escaped [] (piecesOf safe .safe ⟨[], text⟩)).map Piece.segment =
      [.literal []] ∨
      Neat ((refined escaped [] (piecesOf safe .safe ⟨[], text⟩)).map
        Piece.segment) := by
  by_cases hNone : safe.matchesIn text = []
  · rw [refined_piecesOf_of_nil hNone]
    exact neatOrEmpty_piecesOf _ _ _
  · exact .inr (neat_refined (neat_piecesOf (.inr hNone)))

end Neat

/-! ## Which matches the tags are -/

section Hits

variable {r : Regex} {variant other : Variant} {s : Stretch} {c : Cursor}
  {text before : Text}

@[simp] theorem hitsOf_nil (variant : Variant) : hitsOf variant [] = [] := rfl

@[simp] theorem hitsOf_gap (variant : Variant) (text : Text) (rest : List Piece) :
    hitsOf variant (.gap text :: rest) = hitsOf variant rest := rfl

theorem hitsOf_hit (variant other : Variant) (h : Hit) (rest : List Piece) :
    hitsOf other (.hit h variant :: rest) =
      (if variant = other then [h] else []) ++ hitsOf other rest := by
  unfold hitsOf
  by_cases hSame : variant = other
  · simp [hSame]
  · simp [hSame]

theorem hitsOf_append (variant : Variant) (front back : List Piece) :
    hitsOf variant (front ++ back) = hitsOf variant front ++ hitsOf variant back :=
  List.filterMap_append

@[simp] theorem hitsOf_gapUnlessEmpty (variant : Variant) (text : Text) :
    hitsOf variant (gapUnlessEmpty text) = [] := by
  cases text <;> rfl

theorem hitsOf_piecesFrom (variant other : Variant) (s : Stretch) (found : List Match) :
    hitsOf other (piecesFrom variant s c found) =
      if variant = other then found.map (Hit.mk s) else [] := by
  induction found generalizing c with
  | nil =>
      rw [piecesFrom, hitsOf_gapUnlessEmpty, List.map_nil, ite_self]
  | cons m more ih =>
      rw [piecesFrom, hitsOf_append, hitsOf_gapUnlessEmpty, hitsOf_hit, ih]
      split <;> rfl

/-- The tags that one expression finds are its matches. -/
theorem hitsOf_piecesOf (r : Regex) (variant other : Variant) (s : Stretch) :
    hitsOf other (piecesOf r variant s) = if variant = other then r.hits s else [] := by
  unfold Regex.hits
  by_cases hNone : r.matchesIn s.text = []
  · rw [piecesOf_of_nil hNone, hNone, hitsOf_gap, hitsOf_nil, List.map_nil, ite_self]
  · rw [piecesOf_of_ne hNone, hitsOf_piecesFrom]

/-- Safe tags stay as they are. -/
theorem hitsOf_safe_refined (r : Regex) (before : Text) (pieces : List Piece) :
    hitsOf .safe (refined r before pieces) = hitsOf .safe pieces := by
  induction pieces generalizing before with
  | nil => rfl
  | cons piece rest ih =>
      cases piece with
      | hit h variant => rw [refined, hitsOf_hit, hitsOf_hit, ih]
      | gap text =>
          rw [refined, hitsOf_append, hitsOf_piecesOf, ih, hitsOf_gap,
            if_neg (by decide), List.nil_append]

theorem refined_append (r : Regex) (before : Text) (front back : List Piece) :
    refined r before (front ++ back) =
      refined r before front ++ refined r (before ++ front.flatMap Piece.text)
        back := by
  induction front generalizing before with
  | nil => rw [List.nil_append, List.flatMap_nil, List.append_nil]; rfl
  | cons piece front ih =>
      cases piece with
      | hit h variant =>
          rw [List.cons_append, refined, refined, ih, List.flatMap_cons,
            ← List.append_assoc]
          rfl
      | gap text =>
          rw [List.cons_append, refined, refined, ih, List.flatMap_cons,
            ← List.append_assoc, ← List.append_assoc]
          rfl

/-- In a gap the tags are the matches in it, if it is looked through. -/
theorem hitsOf_escaped_refined_gapUnlessEmpty (r : Regex) (before text : Text) :
    hitsOf .escaped (refined r before (gapUnlessEmpty text)) =
      ([⟨before, text⟩].filter fun (s : Stretch) => !s.text.isEmpty).flatMap
        r.hits := by
  cases text with
  | nil => rfl
  | cons x text =>
      show hitsOf .escaped (piecesOf r .escaped ⟨before, x :: text⟩ ++ []) =
        r.hits _ ++ []
      rw [List.append_nil, List.append_nil, hitsOf_piecesOf, if_pos rfl]

/-- Between safe tags the escaped ones are the matches in what is left there. -/
theorem hitsOf_escaped_refined_piecesFrom {found : List Match}
    (hOrdered : Ordered c found) :
    hitsOf .escaped (refined r c.before.reverse (piecesFrom .safe s c found)) =
      ((stretchesFrom c found).filter fun left => !left.text.isEmpty).flatMap
        r.hits := by
  induction hOrdered with
  | nil c => exact hitsOf_escaped_refined_gapUnlessEmpty r _ _
  | @cons c m more hAhead hMore ih =>
      have hGap : (gapUnlessEmpty (c.upTo m.start)).flatMap Piece.text =
          c.upTo m.start :=
        (laid_gapUnlessEmpty [] _).flatMap_text
      have hStop : c.before.reverse ++ c.upTo m.start ++ m.text =
          m.stop.before.reverse := by
        rw [Cursor.before_of_reaches hAhead.stop_reached,
          Cursor.before_of_reaches hAhead.start_reached]
        rfl
      rw [piecesFrom, refined_append, hitsOf_append,
        hitsOf_escaped_refined_gapUnlessEmpty, hGap, refined, hitsOf_hit,
        if_neg (by decide), List.nil_append]
      show _ ++
        hitsOf .escaped (refined r (c.before.reverse ++ c.upTo m.start ++ m.text) _) = _
      rw [hStop, ih, stretchesFrom, ← List.flatMap_append, ← List.filter_append]
      rfl

/-- The escaped tags are the matches in what the safe ones leave. -/
theorem hitsOf_escaped_refined (safe escaped : Regex) (text : Text) :
    hitsOf .escaped (refined escaped [] (piecesOf safe .safe ⟨[], text⟩)) =
      (leftOver text (safe.matchesIn text)).flatMap escaped.hits := by
  by_cases hNone : safe.matchesIn text = []
  · rw [refined_piecesOf_of_nil hNone, hNone, hitsOf_piecesOf, if_pos rfl]
    show _ = escaped.hits ⟨[], text⟩ ++ []
    rw [List.append_nil]
  · have hTags := @hitsOf_escaped_refined_piecesFrom escaped ⟨[], text⟩ _ _
      (ordered_matchesIn safe.node text)
    have hLeft : leftOver text (safe.matchesIn text) =
        (stretchesFrom (.first text) (safe.matchesIn text)).filter fun s =>
          !s.text.isEmpty := by
      unfold leftOver
      split
      · contradiction
      · rfl
    rw [piecesOf_of_ne hNone, hLeft]
    exact hTags

end Hits

/-! ## Scanning and recomposing -/

/-- The segments are the pieces of a text, with each tag where its match is. -/
structure IsCut (text : Text) (pieces : List Piece) (segments : List Segment) :
    Prop where
  segments_eq : segments = pieces.map Piece.segment
  neat : segments = [.literal []] ∨ Neat segments
  texts : pieces.flatMap Piece.text = text
  placed : ∀ front h variant back, pieces = front ++ .hit h variant :: back →
    front.flatMap Piece.text = h.before

theorem isCut_of_laid {text : Text} {pieces : List Piece} (hLaid : Laid [] pieces text)
    (hNeat : pieces.map Piece.segment = [.literal []] ∨
      Neat (pieces.map Piece.segment)) :
    IsCut text pieces (pieces.map Piece.segment) := by
  refine ⟨rfl, hNeat, hLaid.flatMap_text, ?_⟩
  rintro front h variant back rfl
  rw [hLaid.before_eq, List.nil_append]

/-- A text is taken apart at the successive matches of the expressions: those
of the one for safe tags in the whole text, and those of the one for escaped
tags in what is left. -/
theorem segments_around_matches :
    (∀ (r : Regex) (text : Text) (found : List Match),
      r.Successive text found ↔ found = r.matchesIn text) ∧
    (∀ (r : Regex) (variant : Variant) (text : Text), 0 < r.groupCount →
      ∃ pieces segments, scan r variant text = .ok segments ∧
      IsCut text pieces segments ∧
        hitsOf variant pieces = r.hits ⟨[], text⟩ ∧
        ∀ other, other ≠ variant → hitsOf other pieces = []) ∧
    ∀ (safe escaped : Regex) (text : Text), 0 < safe.groupCount →
    0 < escaped.groupCount →
      ∃ pieces segments, recompose safe escaped text = .ok segments ∧
        IsCut text pieces segments ∧
        hitsOf .safe pieces = safe.hits ⟨[], text⟩ ∧
        hitsOf .escaped pieces =
          (leftOver text (safe.matchesIn text)).flatMap escaped.hits := by
  refine ⟨fun r text found => Regex.successive_iff, ?_, ?_⟩
  · intro r variant text hGroups
    refine ⟨_, _, scan_eq hGroups variant ⟨[], text⟩,
      isCut_of_laid (laid_piecesOf r variant ⟨[], text⟩)
      (neatOrEmpty_piecesOf _ _ _), ?_, ?_⟩
    · rw [hitsOf_piecesOf, if_pos rfl]
    · intro other hOther
      rw [hitsOf_piecesOf, if_neg (Ne.symm hOther)]
  · intro safe escaped text hSafe hEscaped
    refine ⟨_, _, recompose_eq hSafe hEscaped text,
      isCut_of_laid (laid_refined (laid_piecesOf safe .safe ⟨[], text⟩))
        (neatOrEmpty_refined safe escaped text), ?_,
        hitsOf_escaped_refined safe escaped text⟩
    rw [hitsOf_safe_refined, hitsOf_piecesOf, if_pos rfl]

/-- Two expressions that look around and match nothing at all, whose group may
be left out: their tags stand beside each other, and some of them are empty. -/
theorem segments_around_matches_empty :
    ∃ safe escaped pieces segments, matcherOf "(?<=x)(a)?".toList = .ok safe ∧
      matcherOf "()(?= )|(b)".toList = .ok escaped ∧
      0 < safe.groupCount ∧ 0 < escaped.groupCount ∧
      recompose safe escaped "xab x".toList = .ok segments ∧
      IsCut "xab x".toList pieces segments ∧
      hitsOf .safe pieces = safe.hits ⟨[], "xab x".toList⟩ ∧
      hitsOf .escaped pieces =
        (leftOver "xab x".toList (safe.matchesIn "xab x".toList)).flatMap
          escaped.hits ∧
      segments = [.literal "x".toList, .tag (some "a".toList) .safe, .tag none .escaped,
        .tag (some []) .escaped, .literal " x".toList, .tag none .safe] := by
  have hRead : ((matcherOf "(?<=x)(a)?".toList).toOption.bind fun safe =>
      (matcherOf "()(?= )|(b)".toList).toOption.bind fun escaped =>
        (recompose safe escaped "xab x".toList).toOption.map fun segments =>
          (safe.groupCount, escaped.groupCount, segments)) =
      some (1, 2, [.literal "x".toList, .tag (some "a".toList) .safe,
        .tag none .escaped, .tag (some []) .escaped, .literal " x".toList,
        .tag none .safe]) := by
    decide +kernel
  obtain ⟨safe, hSafe, hRead⟩ := Option.bind_eq_some_iff.mp hRead
  obtain ⟨escaped, hEscaped, hRead⟩ := Option.bind_eq_some_iff.mp hRead
  obtain ⟨segments, hSegments, hRead⟩ := Option.map_eq_some_iff.mp hRead
  simp only [Prod.mk.injEq] at hRead
  obtain ⟨hSafeGroups, hEscapedGroups, hKnown⟩ := hRead
  have hSafeGroup : 0 < safe.groupCount := by omega
  have hEscapedGroup : 0 < escaped.groupCount := by omega
  obtain ⟨pieces, cut, hCut, hIsCut, hSafeHits, hEscapedHits⟩ :=
    segments_around_matches.2.2 safe escaped "xab x".toList hSafeGroup hEscapedGroup
  obtain rfl : cut = segments :=
    Except.ok.inj (hCut.symm.trans (ok_of_toOption hSegments))
  exact ⟨safe, escaped, pieces, cut, ok_of_toOption hSafe, ok_of_toOption hEscaped,
    hSafeGroup, hEscapedGroup, hCut, hIsCut, hSafeHits, hEscapedHits, hKnown⟩

end Retag

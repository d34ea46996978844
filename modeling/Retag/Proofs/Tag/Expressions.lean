import Retag.Proofs.Tag.Fragments

/-!
# Markers that are expressions

A marker may be an expression.  The expression that finds the tags is then put
together as text: the fragment of the opening marker, the group for the
content, and the fragment of the closing marker.  If each fragment compiles on
its own, without groups, and is one sequence of items, then nothing in one
fragment changes the meaning of the other or of the group between them.  Every
match is a tag whose two ends are matches of the fragments on their own, in
their places in the text, around a content that is not empty; so every text is
taken apart into segments that can be written.

The other conditions are needed.  A bar at the top level of a fragment divides
the whole expression, and a match may then have no content.  The flags of a
marker are dropped with its fragment, which may leave nothing that compiles,
and flags inside the text may only stand at the start of the whole.

## Main results

* `compile_embedded`: the expression is the nodes of the fragments, with the
  content between them.
* `fragments_embed`: what a pair of markers promises.
* `bars_and_flags_do_not_embed`: expressions that compile on their own but do
  not embed.
-/

namespace Retag

open Regex Text

namespace Regex

/-! ## Compiling a pair -/

variable {opening closing : Text} {first last : Regex}

/-- The group for the content is read where a fragment ended. -/
theorem items_contentGroup_of_stands {s : Reading} (depth : Nat) (read : List Term)
    (hStands : Stands s [none] (contentGroup ++ closing)) (hEnd : closing ≠ ['\\']) :
    ∃ after width, (Reader.items (depth + 4) false true read).run s =
        (Reader.items (depth + 3) false true (contentPart.term :: read)).run after ∧
      Stands after [none, width] closing := by
  have hContent := Reader.items_contentGroup depth true read hStands.rest hEnd
  simp only [hStands.groups, List.length_singleton] at hContent
  obtain ⟨width, hGroups⟩ : ∃ width, ((s.opened.moved 10 closing).closed 1
      Reader.contentTerm).groups = [none, width] := by
    simp only [Reading.closed, Reading.moved, Reading.opened, hStands.groups]
    exact ⟨_, rfl⟩
  exact ⟨_, width, hContent, rfl, hGroups, hStands.subject, hStands.flags,
    hStands.names, hStands.conditions⟩

/-- The text of two fragments around the group for the content is read as the
parts of the first, the content, and the parts of the second. -/
theorem items_embedded (hOpening : Embeddable opening first)
    (hClosing : Embeddable closing last) :
    ∃ (before behind : List Part) (final : Reading),
      (Reader.items (2 * (opening ++ contentGroup ++ closing).length + 3) false true
        []).run (Reading.initial .text (opening ++ contentGroup ++ closing) 0) =
          .ok (Term.ofReversed ((behind ++ contentPart :: before).map Part.term),
            final) ∧
      (∀ groups, ∀ p ∈ behind ++ contentPart :: before, p.Sound groups) ∧
      first.node = Node.ofReversed (before.map Part.node) ∧
      first.node.isUngrouped = true ∧
      last.node = Node.ofReversed (behind.map Part.node) ∧
      last.node.isUngrouped = true ∧
      ∃ width, Stands final [none, width] [] := by
  have hLength : (opening ++ contentGroup ++ closing).length =
      opening.length + 10 + closing.length := by
    rw [List.length_append, List.length_append]
    rfl
  have hEnoughFirst : 2 * opening.length + 3 ≤
      2 * (opening ++ contentGroup ++ closing).length + 3 := by omega
  have hStart : Stands (Reading.initial .text (opening ++ contentGroup ++ closing) 0)
    [none]
      (opening ++ (contentGroup ++ closing)) :=
    ⟨List.append_assoc .., rfl, rfl, rfl, rfl, rfl⟩
  obtain ⟨before, rest, middle, hBefore, hFirst, hFirstUngrouped, hRest, hMiddle,
    hRunFirst⟩ := hOpening.embedded (w := ⟨[none], contentGroup ++ closing,
      fun c hHead => (Option.some.inj hHead).symm⟩) [] hStart hEnoughFirst
  obtain ⟨depth, rfl⟩ : ∃ depth, rest = depth + 4 := ⟨rest - 4, by omega⟩
  obtain ⟨after, width, hRunContent, hAfter⟩ :=
    items_contentGroup_of_stands depth (before.map Part.term ++ []) hMiddle
      hClosing.ne_slash
  have hEnoughLast : 2 * closing.length + 3 ≤ depth + 3 := by omega
  obtain ⟨behind, rest, final, hBehind, hLast, hLastUngrouped, -, hFinal,
    hRunLast⟩ := hClosing.embedded (w := ⟨[none, width], [], by simp⟩)
      (contentPart.term :: (before.map Part.term ++ [])) (t := after)
      (by rw [List.append_nil]; exact hAfter) hEnoughLast
  have hEnd := Reader.items_run_of_end rest false true
    (behind.map Part.term ++ contentPart.term :: (before.map Part.term ++ []))
    (s := final) (by simp [hFinal.rest, Token.first?])
  refine ⟨before, behind, final, ?_, fun groups p hMem => ?_, hFirst, hFirstUngrouped,
    hLast, hLastUngrouped, width, hFinal⟩
  · rw [hRunFirst, hRunContent, hRunLast, hEnd]
    simp
  · rcases List.mem_append.mp hMem with hMem | hMem
    · exact hBehind groups p hMem
    · rcases List.mem_cons.mp hMem with rfl | hMem
      · rfl
      · exact hBefore groups p hMem

/-- The text of two fragments around the group for the content compiles to
their nodes after each other, with the content between them. -/
theorem compile_embedded (hOpening : Embeddable opening first)
    (hClosing : Embeddable closing last) :
    ∃ node, Regex.compile (opening ++ contentGroup ++ closing) 0 =
        .ok ⟨opening ++ contentGroup ++ closing, plainFlags, 1, node⟩ ∧
      first.node.isUngrouped = true ∧ last.node.isUngrouped = true ∧
      ∀ k, node.run k = first.node.run (contentNode.run (last.node.run k)) := by
  obtain ⟨before, behind, final, hItems, hSound, hFirst, hFirstUngrouped, hLast,
    hLastUngrouped, width, hFinal⟩ :=
    items_embedded hOpening hClosing
  have hSource : opening ++ contentGroup ++ closing ≠ ['\\'] := by
    intro hSlash
    have hLength := congrArg List.length hSlash
    simp only [List.length_append, contentGroup, List.length_cons] at hLength
    omega
  have hRun :=
    Reader.alternatives_run _ true hItems (by simp [hFinal.rest, Token.first?])
  refine ⟨Node.ofReversed ((behind ++ contentPart :: before).map Part.node), ?_,
    hFirstUngrouped, hLastUngrouped, fun k => ?_⟩
  · rw [compile_of_run hSource hRun hFinal.rest hFinal.flags hFinal.conditions
      fun groups =>
      compile_ofReversed (hSound groups), hFinal.groups]
    rfl
  · rw [List.map_append, List.map_cons, run_ofReversed_append, run_ofReversed_cons,
      hFirst, hLast]
    rfl

/-! ## Matching a pair -/

/-- Contents are not empty. -/
theorem left_lt_of_content {c d : Cursor}
    (hSpans : (Node.many .lazy 1 none anyCharacter).spans c d = true) :
    d.left < c.left := by
  obtain ⟨t, hRun⟩ := Option.isSome_iff_exists.mp hSpans
  change anyCharacter.run (fun t => lazy (fun k t => anyCharacter.run k t)
    (fun t => if t.cursor = d then some t else none) t.cursor.left none t) ⟨c, []⟩ =
      some t at hRun
  rw [run_anyCharacter] at hRun
  cases hRest : c.rest with
  | nil =>
      rw [hRest] at hRun
      cases hRun
  | cons x rest =>
      rw [hRest] at hRun
      obtain ⟨u, hLeads, hAnswer⟩ :=
        forward_lazy (forward_run anyCharacter) _ none _ _ t hRun
      split at hAnswer
      · rename_i hCursor
        have hLess : u.cursor.left ≤ (c.past 1).left := hLeads.reaches.left_le
        have hLeft := c.left_eq
        rw [hRest, List.length_cons] at hLeft
        rw [hCursor, Cursor.left_past] at hLess
        omega
      · cases hAnswer

/-- A match that is a tag: the opening node matches its start, in its place in
the text and on its own, the closing node its end, and what is between them is
not empty and is the first group. -/
def Match.IsTag (opening closing : Node) (m : Match) : Prop :=
  ∃ u v, opening.spans m.start u = true ∧ closing.spans v m.stop = true ∧
    m.text = m.start.upTo u ++ u.upTo v ++ v.upTo m.stop ∧
    u.upTo v ≠ [] ∧ m.group? 1 = some (u.upTo v)

variable {node : Node} {advancing : Bool} {c : Cursor} {m : Match}

/-- A match of an opening, a content and a closing node is a tag. -/
theorem isTag_of_matchAt? {opening closing : Node}
    (hOpening : opening.isUngrouped = true) (hClosing : closing.isUngrouped = true)
    (hRun : ∀ k, node.run k = opening.run (contentNode.run (closing.run k)))
    (hMatch : node.matchAt? advancing c = some m) : m.IsTag opening closing := by
  have hContent : (Node.many .lazy 1 none anyCharacter).isUngrouped = true := rfl
  obtain ⟨t, hAnswer, rfl⟩ := Option.map_eq_some_iff.mp hMatch
  rw [hRun] at hAnswer
  obtain ⟨u, hFirst, hBehind⟩ := spans_of_run hOpening hAnswer
  obtain ⟨v, hInner, hRest⟩ := spans_of_run hContent hBehind
  obtain ⟨z, hLast, hEnd⟩ := spans_of_run hClosing hRest
  have hBefore := reaches_of_spans hFirst
  have hInside := reaches_of_spans hInner
  have hLess := left_lt_of_content hInner
  split at hEnd
  · cases hEnd
  · cases hEnd
    refine ⟨u, v, hFirst, hLast, ?_, Cursor.upTo_ne_nil hLess, ?_⟩
    · rw [Match.text, Cursor.upTo_append (hBefore.trans hInside)
        (reaches_of_spans hLast), Cursor.upTo_append hBefore hInside]
    · rw [Match.group?, Marks.text?]
      simp [Marks.span?, Marks.leave, Marks.enter, Marks.put, Nat.le_of_lt hLess]

end Regex

/-! ## Scanning for a pair -/

namespace Segment

/-- Whether a segment is a tag with a content that is not empty, or is no tag. -/
def isFilled : Segment → Bool
  | .literal _ => true
  | .tag inner _ => inner.any fun text => !text.isEmpty

/-- Segments whose tags have a content can be written. -/
theorem writeAll_of_isFilled (literal : Text → Text) (mark : Text)
    {segments : List Segment} (hFilled : ∀ s ∈ segments, s.isFilled = true) :
    ∃ written, writeAll literal mark segments = .ok written := by
  induction segments with
  | nil => exact ⟨[], rfl⟩
  | cons s rest ih =>
      obtain ⟨behind, hBehind⟩ :=
        ih fun t hMem => hFilled t (List.mem_cons_of_mem _ hMem)
      have hFirst := hFilled s List.mem_cons_self
      cases s with
      | literal text => exact ⟨_, by rw [writeAll, hBehind]; rfl⟩
      | tag inner variant =>
          cases inner with
          | none => cases hFirst
          | some inner => exact ⟨_, by rw [writeAll, hBehind]; rfl⟩

end Segment

theorem isFilled_literalUnlessEmpty (text : Text) :
    ∀ s ∈ literalUnlessEmpty text, s.isFilled = true := by
  intro s hMem
  unfold literalUnlessEmpty at hMem
  split at hMem
  · cases hMem
  · rw [List.mem_singleton.mp hMem]
    rfl

/-- The tags of matches that are tags have a content. -/
theorem isFilled_segmentsFrom {opening closing : Node} (variant : Variant)
    {found : List Match} (hFound : ∀ m ∈ found, m.IsTag opening closing)
    (c : Cursor) :
    ∀ s ∈ segmentsFrom variant c found, s.isFilled = true := by
  induction found generalizing c with
  | nil => exact isFilled_literalUnlessEmpty c.rest
  | cons m more ih =>
      intro s hMem
      rw [segmentsFrom, List.mem_append, List.mem_cons] at hMem
      rcases hMem with hBefore | rfl | hBehind
      · exact isFilled_literalUnlessEmpty _ s hBefore
      · obtain ⟨u, v, -, -, -, hInner, hGroup⟩ := hFound m List.mem_cons_self
        simpa [Segment.isFilled, hGroup] using hInner
      · exact ih (fun n hMore => hFound n (List.mem_cons_of_mem _ hMore)) m.stop s
          hBehind

/-- Scanning with an expression whose matches are tags. -/
theorem scan_of_isTag {matcher : Regex} {opening closing : Node}
    (hGroups : matcher.groupCount = 1)
    (hFound : ∀ text, ∀ m ∈ matcher.matchesIn text, m.IsTag opening closing)
    (variant : Variant) (text : Text) :
    ∃ segments, scan matcher variant text = .ok segments ∧
      ∀ s ∈ segments, s.isFilled = true := by
  have hTags := hFound text
  unfold scan
  split
  · exact ⟨_, rfl, fun s hMem => by rw [List.mem_singleton.mp hMem]; rfl⟩
  · rename_i hMatches
    rw [if_neg (by rw [hGroups]; decide)]
    exact ⟨_, rfl, isFilled_segmentsFrom variant hTags _⟩

/-! ## Pairs that embed -/

/-- What a pair of markers promises with the expressions of its two fragments
and the expression that finds its tags. -/
structure MarkerPair.Embedded (pair : MarkerPair) (first last matcher : Regex) :
    Prop where
  opening_compiles : Regex.compile pair.opening.openingFragment.text 0 = .ok first
  closing_compiles : Regex.compile pair.closing.fragment.text 0 = .ok last
  compiles : matcherOf pair.source = .ok matcher
  groupCount : matcher.groupCount = 1
  /-- Every match is cut into what each fragment matches on its own, and a content. -/
  isTag : ∀ text, ∀ m ∈ matcher.matchesIn text, m.IsTag first.node last.node
  /-- Every text is taken apart, its tags have a content, and the segments can
  be written. -/
  scans : ∀ variant text, ∃ segments, scan matcher variant text = .ok segments ∧
    (∀ s ∈ segments, s.isFilled = true) ∧
    ∀ literal mark, ∃ written, Segment.writeAll literal mark segments = .ok written

/-- A pair of markers whose fragments stand in the expression for its tags as
they would on their own. -/
def MarkerPair.Embeds (pair : MarkerPair) : Prop :=
  ∃ first last matcher, pair.Embedded first last matcher

/-- What an opening marker that may end in a dash compiles to. -/
def dashedOpening : Node :=
  .cat (.cat (.one (.single '<'.toNat)) (.one (.single '%'.toNat)))
    (.many .greedy 0 (some 1) (.one (.single '-'.toNat)))

/-- What a closing marker that may begin with a dash compiles to. -/
def dashedClosing : Node :=
  .cat (.cat (.many .greedy 0 (some 1) (.one (.single '-'.toNat)))
    (.one (.single '%'.toNat))) (.one (.single '>'.toNat))

/-- The expression of two fragments finds tags. -/
theorem matcherOf_fragments {pair : MarkerPair} {first last : Regex}
    (hOpening : Embeddable pair.opening.openingFragment.text first)
    (hClosing : Embeddable pair.closing.fragment.text last) :
    ∃ matcher, matcherOf pair.source = .ok matcher ∧ matcher.groupCount = 1 ∧
      ∀ text, ∀ m ∈ matcher.matchesIn text, m.IsTag first.node last.node := by
  obtain ⟨node, hCompile, hFirst, hLast, hRun⟩ := compile_embedded hOpening hClosing
  refine ⟨⟨pair.source, plainFlags, 1, node⟩, ?_, rfl, fun text m hMem => ?_⟩
  · rw [matcherOf, MarkerPair.source, hCompile]
    rfl
  · obtain ⟨advancing, hMatch⟩ := matchAt?_of_mem_matchesWithin hMem
    exact isTag_of_matchAt? hFirst hLast hRun hMatch

/-- Markers embed if each fragment compiles on its own, without groups, and is
one sequence of items. -/
theorem fragments_embed {pair : MarkerPair} {first last : Regex}
    (hOpening : Embeddable pair.opening.openingFragment.text first)
    (hClosing : Embeddable pair.closing.fragment.text last) : pair.Embeds := by
  obtain ⟨matcher, hMatcher, hGroups, hTags⟩ :=
    matcherOf_fragments hOpening hClosing
  refine ⟨first, last, matcher, hOpening.compiles, hClosing.compiles, hMatcher,
    hGroups, hTags, fun variant text => ?_⟩
  obtain ⟨segments, hScan, hFilled⟩ := scan_of_isTag hGroups hTags variant text
  exact ⟨segments, hScan, hFilled, fun literal mark =>
    Segment.writeAll_of_isFilled literal mark hFilled⟩

/-- Markers that trim a dash, with anchors and a flag of their own. -/
theorem fragments_embed_dashes :
    Embeddable "<%-?".toList ⟨"<%-?".toList, plainFlags, 0, dashedOpening⟩ ∧
      Embeddable "-?%>".toList ⟨"-?%>".toList, plainFlags, 0, dashedClosing⟩ ∧
      (MarkerPair.mk (.expression "^<%-?".toList 32)
        (.expression "-?%>$".toList 34)).Embeds := by
  have hOpening :
      Embeddable "<%-?".toList ⟨"<%-?".toList, plainFlags, 0, dashedOpening⟩ :=
    ⟨rfl, rfl, rfl⟩
  have hClosing :
      Embeddable "-?%>".toList ⟨"-?%>".toList, plainFlags, 0, dashedClosing⟩ :=
    ⟨rfl, rfl, rfl⟩
  exact ⟨hOpening, hClosing, fragments_embed hOpening hClosing⟩

/-- A text with markers that embed is always rewritten. -/
theorem rewriteBy_of_embeds {pair : MarkerPair} (hEmbeds : pair.Embeds)
    (isEscaping : Bool) (text : Text) :
    ∃ written, rewriteBy pair.source isEscaping text = .ok written := by
  obtain ⟨first, last, matcher, hEmbedded⟩ := hEmbeds
  obtain ⟨segments, hScan, -, hWrite⟩ := hEmbedded.scans .escaped text
  obtain ⟨written, hWritten⟩ := hWrite id (markBefore isEscaping)
  refine ⟨written, ?_⟩
  rw [rewriteBy, hEmbedded.compiles]
  show rewrite matcher isEscaping text = _
  rw [rewrite, hScan]
  show orFail .ofWrite (Segment.writeAll id (markBefore isEscaping) segments) = _
  rw [hWritten]
  rfl

/-! ## Pairs that do not embed -/

theorem not_embeds_of_matcherOf {pair : MarkerPair}
    (hRefused : (matcherOf pair.source).toOption = none) : ¬ pair.Embeds := by
  rintro ⟨first, last, matcher, hEmbedded⟩
  rw [hEmbedded.compiles] at hRefused
  cases hRefused

/-- Whether a marker is an expression that compiles on its own, with the flags
it was made with, and has no groups. -/
def Marker.compilesAlone : Marker → Bool
  | .literal _ => false
  | .expression source flags =>
    match Regex.compile source flags with
    | .ok r => r.groupCount == 0
    | .error _ => false

/-- The segments that the expression of a pair takes a text apart into. -/
def MarkerPair.segments? (pair : MarkerPair) (text : Text) : Option (List Segment) :=
  (matcherOf pair.source).toOption.bind fun matcher =>
    (scan matcher .escaped text).toOption

/-- Tags that open with one of two markers: the bar divides the expression for
the tags as a whole. -/
def barredPair : MarkerPair :=
  ⟨.expression "<<|<%".toList 32, .expression "%>".toList 32⟩

/-- Tags whose opening marker ends in a comment: without the flag for comments
the comment opens a group. -/
def commentedPair : MarkerPair :=
  ⟨.expression "<% #(".toList 96, .expression "%>".toList 32⟩

/-- Tags whose closing marker turns on a flag for the whole expression, which
may only be done at its start. -/
def flaggedPair : MarkerPair :=
  ⟨.expression "<%".toList 32, .expression "(?i)%>".toList 34⟩

/-- That two expressions compile on their own, without groups, is not enough:
a bar leaves tags without a content, which cannot be written, and an expression
that needs its flags or turns on its own may leave nothing that compiles. -/
theorem bars_and_flags_do_not_embed :
    (barredPair.opening.compilesAlone = true ∧
      barredPair.closing.compilesAlone = true ∧
      barredPair.segments? "a << b".toList =
        some [.literal "a ".toList, .tag none .escaped, .literal " b".toList] ∧
      (rewriteBy barredPair.source false "a << b".toList).toOption = none ∧
      ¬ barredPair.Embeds) ∧
    (commentedPair.opening.compilesAlone = true ∧
      commentedPair.closing.compilesAlone = true ∧
      (matcherOf commentedPair.source).toOption = none ∧ ¬ commentedPair.Embeds) ∧
    flaggedPair.opening.compilesAlone = true ∧
    flaggedPair.closing.compilesAlone = true ∧
      (matcherOf flaggedPair.source).toOption = none ∧ ¬ flaggedPair.Embeds := by
  have hFails : (rewriteBy barredPair.source false "a << b".toList).toOption =
      none := by
    decide +kernel
  have hCommented : (matcherOf commentedPair.source).toOption = none := by
    decide +kernel
  have hFlagged : (matcherOf flaggedPair.source).toOption = none := by decide +kernel
  refine ⟨⟨by decide +kernel, by decide +kernel, by decide +kernel, hFails,
    fun hEmbeds => ?_⟩,
    ⟨by decide +kernel, by decide +kernel, hCommented,
      not_embeds_of_matcherOf hCommented⟩,
    by decide +kernel, by decide +kernel, hFlagged, not_embeds_of_matcherOf hFlagged⟩
  obtain ⟨written, hWritten⟩ := rewriteBy_of_embeds hEmbeds false "a << b".toList
  rw [hWritten] at hFails
  cases hFails

end Retag

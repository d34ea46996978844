import Retag.Cache
import Retag.Proofs.Tag.Form
import Retag.Proofs.Regex.Reading
import Retag.Proofs.Regex.PlainMatch

/-!
# The expression of a plain marker pair

The expression that finds the tags between two plain markers is put together
as text.  This module follows it through the reader and the compiler to its
nodes, and says what they match: exactly the tag at the start of the rest of
the text, as `TagForm.tagAt?` reads it off.

A part of the expression is kept as a term and the node it compiles to.  The
reader produces the terms of the parts, the compiler turns them into the
nodes, and the matcher is only ever asked about the nodes.

## Main results

* `TagForm.compile_source`: the expression always compiles, with one group.
* `TagForm.matchAt?_node`: a match is the tag at the start of the text.
-/

namespace Retag

open Regex Text

/-! ## Parts -/

namespace Regex

/-- A part of an expression: its term and its node. -/
structure Part where
  term : Term
  /-- The node that the term compiles to. -/
  node : Node

/-- The parts of a plain text, the last one first. -/
def literalParts (text : Text) : List Part :=
  (text.map fun c => ⟨.char c.toNat, .one (.single c.toNat)⟩).reverse

/-- The part that refuses an equals sign. -/
def refusingPart : Part :=
  ⟨Reader.refusingTerm, .look 0 true (.one (.single '='.toNat))⟩

/-- The part for a tag's content. -/
def contentPart : Part := ⟨.group (some 1) 0 0 Reader.contentTerm, contentNode⟩

theorem terms_literalParts (text : Text) :
    (literalParts text).map Part.term = Reader.literalTerms text := by
  simp [literalParts, Reader.literalTerms, Function.comp_def]

theorem nodes_literalParts (text : Text) :
    (literalParts text).map Part.node = (literalNodes text).reverse := by
  simp [literalParts, literalNodes, Function.comp_def]

/-- The flags of an expression on text that turns none on. -/
def plainFlags : Flags := Flag.unicode.bit

/-- A part whose term compiles to its node. -/
def Part.Sound (groups : Nat → Width) (p : Part) : Prop :=
  p.term.compile groups plainFlags = .ok p.node

theorem sound_literalParts (groups : Nat → Width) (text : Text) :
    ∀ p ∈ literalParts text, p.Sound groups := by
  intro p hMem
  simp only [literalParts, List.mem_reverse, List.mem_map] at hMem
  obtain ⟨c, -, rfl⟩ := hMem
  rfl

/-- Sound parts after each other compile to their nodes after each other. -/
theorem compile_ofReversed {groups : Nat → Width} {parts : List Part}
    (hParts : ∀ p ∈ parts, p.Sound groups) :
    (Term.ofReversed (parts.map Part.term)).compile groups plainFlags =
      .ok (Node.ofReversed (parts.map Part.node)) := by
  induction parts with
  | nil => rfl
  | cons p parts ih =>
      have hHead : p.term.compile groups plainFlags = .ok p.node := hParts p (by simp)
      have hTail := ih fun q hq => hParts q (by simp [hq])
      cases parts with
      | nil => exact hHead
      | cons q parts =>
          show (Term.cat _ _).compile groups plainFlags = _
          rw [Term.compile]
          simp only [List.map_cons] at hTail ⊢
          rw [hTail, hHead]
          rfl

/-- Reading and compiling an expression without flags, once the reader is
known to come to its end. -/
theorem compile_of_run {source : Text} {term : Term} {node : Node} {s : Reading}
    (hSource : source ≠ ['\\'])
    (hRun : (Reader.alternatives (2 * source.length + 4) true false).run
      (Reading.initial .text source 0) = .ok (term, s))
    (hRest : s.rest = []) (hFlags : s.flags = 0) (hConditions : s.conditions = [])
    (hNode : ∀ groups, term.compile groups plainFlags = .ok node) :
    Regex.compile source 0 =
      .ok ⟨source, plainFlags, s.groups.length - 1, node⟩ := by
  have hSettle : Flags.settle 0 .text = .ok plainFlags := rfl
  have hRead : Term.read .text source 0 = .ok ⟨term, plainFlags, s.groups⟩ := by
    unfold Term.read
    rw [if_neg (by simpa using hSource)]
    show ((Reader.alternatives (2 * source.length + 4) true false).run
      (Reading.initial .text source 0) >>= _) = _
    rw [hRun]
    show (Flags.settle s.flags .text >>= _) = _
    rw [hFlags, hSettle]
    simp only [hRest, hConditions]
    rfl
  unfold Regex.compile Regex.compileFor
  show (Term.read .text source 0 >>= _) = _
  rw [hRead]
  simp only [bind, Except.bind]
  rw [hNode]
  rfl

end Regex

/-! ## The expression of a form -/

theorem endsInEquals_escapeLiteral (text : Text) :
    endsInEquals (escapeLiteral text) = endsInEquals text := by
  rcases List.eq_nil_or_concat text with rfl | ⟨front, c, rfl⟩
  · rfl
  · have hLast : (escapeChar c).getLast? = some c := by
      unfold escapeChar
      split <;> rfl
    rw [List.concat_eq_append, escapeLiteral_append]
    simp [endsInEquals, escapeLiteral, hLast]

namespace TagForm

variable (form : TagForm)

/-- The parts between the markers, the last one first. -/
def middleParts : List Part :=
  contentPart :: if form.refusesEquals then [refusingPart] else []

/-- The text of the parts between the markers. -/
def middleSource : Text :=
  (if form.refusesEquals then notEquals else []) ++ contentGroup

/-- The expression that finds the tags of the form. -/
def source : Text :=
  escapeLiteral form.opening ++ (form.middleSource ++ escapeLiteral form.closing)

/-- The parts of the expression, the last one first. -/
def parts : List Part :=
  literalParts form.closing ++ (form.middleParts ++ literalParts form.opening)

/-- What the expression compiles to. -/
def node : Node := Node.ofReversed (form.parts.map Part.node)

/-- The compiled expression. -/
def matcher : Regex := ⟨form.source, plainFlags, 1, form.node⟩

/-- The expression of two plain markers is that of their form. -/
theorem source_plain (opening closing : Text) :
    (plain opening closing).source =
      (MarkerPair.mk (.literal opening) (.literal closing)).source := by
  simp only [source, middleSource, MarkerPair.source, Marker.openingFragment,
    Marker.fragment, endsInEquals_escapeLiteral, plain]
  by_cases hEquals : endsInEquals opening = true <;> simp [hEquals]

/-! ### Reading -/

theorem middleSource_append_ne {rest : Text} :
    form.middleSource ++ rest ≠ ['\\'] := by
  unfold middleSource
  cases form.refusesEquals <;> simp [notEquals, contentGroup]

/-- The parts between the markers are read one after the other. -/
theorem items_middleSource {s : Reading} {rest : Text} (depth : Nat) (read : List Term)
    (hRest : s.rest = form.middleSource ++ rest) (hEnd : rest ≠ ['\\'])
    (hGroups : s.groups.length = 1) :
    ∃ slack after, (Reader.items (depth + 6) false true read).run s =
        (Reader.items (depth + slack) false true
          (form.middleParts.map Part.term ++ read)).run after ∧
      after.rest = rest ∧ after.flags = s.flags ∧
      after.conditions = s.conditions ∧
        after.groups.length = 2 := by
  unfold middleSource at hRest
  unfold middleParts
  cases hRefuses : form.refusesEquals with
  | false =>
      simp only [hRefuses, Bool.false_eq_true, if_false, List.nil_append] at hRest
      have hContent := Reader.items_contentGroup (depth + 2) true read hRest hEnd
      rw [hGroups] at hContent
      exact ⟨5, _, hContent, rfl, rfl, rfl, by
        simp [Reading.closed, Reading.moved, Reading.opened, hGroups]⟩
  | true =>
      simp only [hRefuses, if_true, List.append_assoc] at hRest
      have hBehind : contentGroup ++ rest ≠ ['\\'] := by simp [contentGroup]
      have hRefused := Reader.items_notEquals (depth + 3) true read hRest hBehind
      have hRest : (s.moved 5 (contentGroup ++ rest)).rest = contentGroup ++ rest := rfl
      have hContent := Reader.items_contentGroup (depth + 1) true
        (Reader.refusingTerm :: read) hRest hEnd
      have hCount : (s.moved 5 (contentGroup ++ rest)).groups.length = 1 := hGroups
      rw [hCount] at hContent
      exact ⟨4, _, hRefused.trans hContent, rfl, rfl, rfl, by
        simp [Reading.closed, Reading.moved, Reading.opened, hGroups]⟩

theorem terms_parts : form.parts.map Part.term =
    Reader.literalTerms form.closing ++
      (form.middleParts.map Part.term ++ (Reader.literalTerms form.opening ++ [])) := by
  simp [parts, terms_literalParts]

/-- The whole expression is read as one sequence of items. -/
theorem items_source {s : Reading} (depth : Nat) (hRest : s.rest = form.source)
    (hGroups : s.groups.length = 1) :
    ∃ last, (Reader.items (depth + form.closing.length + 6 + form.opening.length)
        false true []).run s =
          .ok (Term.ofReversed (form.parts.map Part.term), last) ∧
      last.rest = [] ∧ last.flags = s.flags ∧ last.conditions = s.conditions ∧
        last.groups.length = 2 := by
  have hNil : ([] : Text) ≠ ['\\'] := by simp
  have hSource : s.rest = escapeLiteral form.opening ++
      (form.middleSource ++ (escapeLiteral form.closing ++ [])) := by
    rw [hRest, List.append_nil]
    rfl
  have hOpening := Reader.items_escapeLiteral (depth + form.closing.length + 6) true []
    form.opening hSource form.middleSource_append_ne
  obtain ⟨slack, behind, hMiddle, hBehind, hFlags, hConditions, hCount⟩ :=
    form.items_middleSource (depth + form.closing.length)
      (Reader.literalTerms form.opening ++ [])
      (Reading.rest_moved s (escapeLiteral form.opening).length _)
      (Reader.escapeLiteral_append_ne form.closing hNil) hGroups
  have hClosing := Reader.items_escapeLiteral (depth + slack) true
    (form.middleParts.map Part.term ++ (Reader.literalTerms form.opening ++ []))
    form.closing hBehind hNil
  have hEnd : ∀ read, (Reader.items (depth + slack) false true read).run
      (behind.moved (escapeLiteral form.closing).length []) =
        .ok (Term.ofReversed read, behind.moved (escapeLiteral form.closing).length
          []) :=
    fun read => Reader.items_run_of_end _ false true read (by simp [Token.first?])
  refine ⟨behind.moved (escapeLiteral form.closing).length [], ?_, rfl, hFlags,
    hConditions, hCount⟩
  rw [hOpening, hMiddle, Nat.add_right_comm, hClosing, hEnd, terms_parts]

/-- The reader comes to the end of the expression with the terms of its
parts, and has found one group. -/
theorem alternatives_source :
    ∃ s, (Reader.alternatives (2 * form.source.length + 4) true false).run
        (Reading.initial .text form.source 0) =
          .ok (Term.ofReversed (form.parts.map Part.term), s) ∧
      s.rest = [] ∧ s.flags = 0 ∧ s.conditions = [] ∧ s.groups.length = 2 := by
  obtain ⟨depth, hDepth⟩ : ∃ depth, 2 * form.source.length + 4 =
      depth + form.closing.length + 6 + form.opening.length + 1 := by
    have hOpening := Reader.length_le_escapeLiteral form.opening
    have hClosing := Reader.length_le_escapeLiteral form.closing
    have hGroup : contentGroup.length = 10 := rfl
    refine ⟨2 * form.source.length + 4 -
      (form.closing.length + 6 + form.opening.length + 1), ?_⟩
    simp only [source, middleSource, List.length_append, hGroup]
    omega
  have hStart : (Reading.initial .text form.source 0).rest = form.source := rfl
  obtain ⟨last, hItems, hRest, hFlags, hConditions, hGroups⟩ :=
    form.items_source depth hStart rfl
  rw [hDepth]
  exact ⟨last, Reader.alternatives_run _ true hItems (by simp [hRest, Token.first?]),
    hRest, hFlags, hConditions, hGroups⟩

/-! ### Compiling -/

theorem source_ne : form.source ≠ ['\\'] := by
  have hNil : ([] : Text) ≠ ['\\'] := by simp
  have hMiddle : form.middleSource ++ escapeLiteral form.closing ≠ ['\\'] :=
    form.middleSource_append_ne
  exact Reader.escapeLiteral_append_ne form.opening hMiddle

theorem sound_parts (groups : Nat → Width) :
    ∀ p ∈ form.parts, p.Sound groups := by
  intro p hMem
  simp only [parts, List.mem_append] at hMem
  rcases hMem with hMem | hMem | hMem
  · exact sound_literalParts groups form.closing p hMem
  · unfold middleParts at hMem
    rcases List.mem_cons.mp hMem with rfl | hMem
    · rfl
    · split at hMem
      · rw [List.mem_singleton.mp hMem]
        rfl
      · cases hMem
  · exact sound_literalParts groups form.opening p hMem

theorem compile_source : Regex.compile form.source 0 = .ok form.matcher := by
  obtain ⟨s, hRun, hRest, hFlags, hConditions, hGroups⟩ := form.alternatives_source
  rw [compile_of_run form.source_ne hRun hRest hFlags hConditions fun groups =>
    compile_ofReversed (form.sound_parts groups), hGroups]
  rfl

/-! ### Matching -/

/-- What the nodes do: the opening marker, what may not follow it, the
content, and the closing marker. -/
theorem run_node (k : Cont) :
    form.node.run k = expecting form.opening fun s =>
      if form.admits s.cursor.rest then contentNode.run (expecting form.closing k) s
      else none := by
  have hMiddle : (Node.ofReversed (form.middleParts.map Part.node)).run
      (expecting form.closing k) = fun s =>
        if form.admits s.cursor.rest then contentNode.run (expecting form.closing k) s
        else none := by
    funext s
    unfold middleParts admits
    cases hRefuses : form.refusesEquals with
    | false => rfl
    | true =>
        rw [if_pos rfl, List.map_cons, run_ofReversed_cons]
        refine (run_refusing '=' _ s).trans ?_
        by_cases hHead : s.cursor.rest.head? = some '='
        · simp [hHead]
        · simp only [hHead, if_false]
          rw [if_pos (by simp [hHead])]
          rfl
  rw [node, parts, List.map_append, List.map_append, nodes_literalParts,
    nodes_literalParts, run_ofReversed_append, run_ofReversed_append, run_literalNodes,
    run_literalNodes, hMiddle]

/-- The match of a tag with some content at a cursor. -/
def tagMatch (c : Cursor) (inner : Text) : Match :=
  ⟨c, c.past (form.opening.length + inner.length + form.closing.length),
    [(1,
      ⟨c.past form.opening.length,
        some (c.past (form.opening.length + inner.length))⟩)]⟩

/-- A content and its closing marker, behind an opening marker. -/
theorem run_content_closing (c : Cursor) :
    contentNode.run (expecting form.closing some) ⟨c, []⟩ =
      (form.content? c.rest).map fun found =>
        ⟨c.past (found.1.length + form.closing.length),
          [(1, ⟨c, some (c.past found.1.length)⟩)]⟩ := by
  have hCont :
      ∀ d, expecting form.closing some ⟨d, (Marks.enter [] 1 c).leave 1 d⟩ =
      (afterMarker? form.closing d.rest).map fun _ =>
        ⟨d.past form.closing.length, [(1, ⟨c, some d⟩)]⟩ := by
    intro d
    rw [expecting_eq_bind]
    cases afterMarker? form.closing d.rest <;> rfl
  rw [run_content hCont]
  cases hRest : c.rest with
  | nil => rfl
  | cons x rest =>
      rw [content?, Option.map_map]
      simp [Function.comp_def]

/-- A match of the expression is the tag at the start of the rest of the text. -/
theorem matchAt?_node (c : Cursor) :
    form.node.matchAt? false c =
      (form.tagAt? c.rest).map fun found => form.tagMatch c found.1 := by
  rw [Node.matchAt?_eq, run_node, expecting_eq_bind, tagAt?]
  cases hOpening : afterMarker? form.opening c.rest with
  | none => rfl
  | some inside =>
      have hInside : (c.past form.opening.length).rest = inside := by
        rw [Cursor.rest_past, afterMarker?_eq_some.mp hOpening, List.drop_left]
      simp only [Option.bind_some, hInside]
      by_cases hAdmits : form.admits inside = true
      · rw [if_pos hAdmits, if_pos hAdmits, run_content_closing, hInside,
          Option.map_map]
        simp [Function.comp_def, tagMatch, Nat.add_assoc]
      · rw [if_neg hAdmits, if_neg hAdmits]
        rfl

theorem search?_node (c : Cursor) :
    form.node.search? false c =
      (form.nextTag? c.rest).map fun found =>
        form.tagMatch (c.past found.1.length) found.2.1 :=
  Node.search?_eq_firstPlace form.matchAt?_node c

section TagMatch

variable {form : TagForm} {c : Cursor} {inner after : Text}

theorem group?_tagMatch (hRest : c.rest = form.tagText inner ++ after) :
    (form.tagMatch c inner).group? 1 = some inner := by
  have hStop : (c.past (form.opening.length + inner.length)).left ≤
      (c.past form.opening.length).left := by
    simp only [Cursor.left_past]
    omega
  have hSpan : Marks.span? (form.tagMatch c inner).marks 1 =
      some (c.past form.opening.length,
        c.past (form.opening.length + inner.length)) := by
    simp only [tagMatch, Marks.span?, List.lookup_cons_self]
    rw [if_pos hStop]
  rw [Match.group?, Marks.text?, hSpan, ← Cursor.past_past]
  show some ((c.past form.opening.length).upTo
    ((c.past form.opening.length).past inner.length)) = _
  rw [Cursor.upTo_past, Cursor.rest_past, hRest]
  simp [tagText, List.append_assoc]

theorem rest_stop_tagMatch (hRest : c.rest = form.tagText inner ++ after) :
    (form.tagMatch c inner).stop.rest = after := by
  have hLength : form.opening.length + inner.length + form.closing.length =
      (form.tagText inner).length := by
    simp [tagText, Nat.add_assoc]
  rw [tagMatch, Cursor.rest_past, hLength, hRest, List.drop_left]

theorem isEmpty_tagMatch (hRest : c.rest = form.tagText inner ++ after)
    (hInner : inner ≠ []) :
    (form.tagMatch c inner).isEmpty = false := by
  have hPos := List.length_pos_iff.mpr hInner
  have hLeft : c.left = form.opening.length + inner.length + form.closing.length +
      after.length := by
    rw [c.left_eq, hRest]
    simp [tagText, Nat.add_assoc]
  simp only [Match.isEmpty, tagMatch, Cursor.left_past, beq_eq_false_iff_ne]
  omega

end TagMatch

end TagForm

end Retag

import Retag.Compile
import Retag.Engine.Program
import Retag.Proofs.Cache.Requests
import Retag.Proofs.Guard.Decoding
import Retag.Proofs.Tag.Pieces
import Retag.Proofs.Tag.Scan
import Retag.Proofs.Template.Runs

/-!
# The guard is invisible

Literal text is written with sentinels before the engine sees it, and the
sentinels are taken back from what the engine answers.  If the engine keeps
the text between the tags, nobody can tell: the answer is the literal text as
it was written, with the engine's texts in the place of the tags.

The reading of the answer comes to the start of every sentinel that was
written, because it goes through the literal text and the engine's texts one
character after the other and neither begins a sentinel.

## Main results

* `decode_fillTags`: what is read from an answer with any texts for tags.
* `compile_guard_invisible`: templates with the default guard.
-/

namespace Retag

open Regex Text Log

/-! ## Templates with texts in the place of tags -/

namespace Segment

/-- The text of segments, with texts in the place of the tags.  The tags are
counted from zero. -/
def fillTags (literal : Text → Text) : List Segment → (Nat → Text) → Text
  | [], _ => []
  | .literal text :: rest, fill => literal text ++ fillTags literal rest fill
  | .tag .. :: rest, fill => fill 0 ++ fillTags literal rest fun i => fill (i + 1)

/-- The native forms of the tags. -/
def tagForms : List Segment → Nat → Text
  | [], _ => []
  | .literal _ :: rest, i => tagForms rest i
  | .tag inner variant :: _, 0 => wrap variant (inner.getD [])
  | .tag .. :: rest, i + 1 => tagForms rest i

/-- Whether every tag has a content. -/
def Complete (segments : List Segment) : Prop :=
  ∀ s ∈ segments, ∀ variant, s ≠ .tag none variant

theorem writeAll_of_complete (literal : Text → Text) {segments : List Segment}
    (hComplete : Complete segments) :
    writeAll literal [] segments =
      .ok (fillTags literal segments (tagForms segments)) := by
  induction segments with
  | nil => rfl
  | cons s rest ih =>
      have ih := ih fun t hMem => hComplete t (List.mem_cons_of_mem _ hMem)
      cases s with
      | literal text =>
          rw [writeAll, ih]
          rfl
      | tag inner variant =>
          cases inner with
          | none => exact absurd rfl (hComplete _ List.mem_cons_self variant)
          | some inner =>
              rw [writeAll, ih]
              rfl

theorem mem_wrap {variant : Variant} {inner : Text} {x : Char}
    (hMem : x ∈ wrap variant inner) :
    x = '{' ∨ x = '}' ∨ x ∈ inner := by
  have hParts : (x = '{' ∨ x ∈ inner) ∨ x = '}' := by
    cases variant with
    | escaped =>
        simpa [wrap, MarkerSet.nativeOpening, MarkerSet.nativeClosing, or_assoc] using
          hMem
    | safe =>
        simpa [wrap, MarkerSet.nativeSafeOpening, MarkerSet.nativeSafeClosing, or_assoc]
          using hMem
  rcases hParts with (hOpen | hInner) | hClose
  · exact .inl hOpen
  · exact .inr (.inr hInner)
  · exact .inr (.inl hClose)

theorem mem_tagForms {segments : List Segment} {i : Nat} {x : Char}
    (hMem : x ∈ tagForms segments i) :
    x = '{' ∨ x = '}' ∨ ∃ s ∈ segments, x ∈ s.own := by
  induction segments generalizing i with
  | nil => cases hMem
  | cons s rest ih =>
      have hLater : ∀ j, x ∈ tagForms rest j →
          x = '{' ∨ x = '}' ∨ ∃ t ∈ s :: rest, x ∈ t.own := by
        intro j hForm
        rcases ih hForm with hOpen | hClose | ⟨t, hRest, hOwn⟩
        · exact .inl hOpen
        · exact .inr (.inl hClose)
        · exact .inr (.inr ⟨t, List.mem_cons_of_mem _ hRest, hOwn⟩)
      cases s with
      | literal text => exact hLater i hMem
      | tag inner variant =>
          cases i with
          | zero =>
              rcases mem_wrap hMem with hOpen | hClose | hInner
              · exact .inl hOpen
              · exact .inr (.inl hClose)
              · exact .inr (.inr ⟨_, List.mem_cons_self, hInner⟩)
          | succ i => exact hLater i hMem

end Segment

/-! ## Reading answers -/

namespace Guard

open Segment

/-- What is read from segments with protected literal text, whatever texts
stand in the place of the tags. -/
theorem decode_fillTags {g : Guard} {emit : Text → Text} (hGuard : g.Unambiguous)
    {segments : List Segment} {fill : Nat → Text}
    (hLiterals : ∀ text, .literal text ∈ segments → ∀ x ∈ text, g.Handles x)
    (hFill : ∀ i, ∀ x ∈ fill i, g.Leaves x) :
    g.decode emit (fillTags g.protect segments fill) =
      fillTags (fun text => text.flatMap (g.echo emit)) segments fill := by
  induction segments generalizing fill with
  | nil => exact decode_nil
  | cons s rest ih =>
      have hRest : ∀ text, .literal text ∈ rest → ∀ x ∈ text, g.Handles x :=
        fun text hMem => hLiterals text (List.mem_cons_of_mem _ hMem)
      cases s with
      | literal text =>
          rw [fillTags, fillTags,
            decode_protect hGuard (hLiterals text List.mem_cons_self), ih hRest hFill]
      | tag inner variant =>
          rw [fillTags, fillTags, decode_append hGuard.toSolid (hFill 0),
            ih hRest fun i => hFill (i + 1)]

theorem restore_fillTags {g : Guard} (hGuard : g.Unambiguous) {segments : List Segment}
    {fill : Nat → Text} (hLiterals : ∀ text, .literal text ∈ segments →
      ∀ x ∈ text, g.Handles x)
    (hFill : ∀ i, ∀ x ∈ fill i, g.Leaves x) :
    g.restore (fillTags g.protect segments fill) = .ok (fillTags id segments fill) := by
  have hEcho : (fun text : Text => text.flatMap (g.echo g.original)) = id := by
    funext text
    rw [funext (echo_original hGuard), List.flatMap_singleton']
    rfl
  rw [restore_eq_decode hGuard.toSolid, decode_fillTags hGuard hLiterals hFill, hEcho]

end Guard

/-! ## Templates with the default guard -/

open Segment

/-- An engine's answer that keeps the text between the tags of a template and
has other texts in the place of the tags. -/
def KeepsText (segments : List Segment) (fill : Nat → Text)
    (answer : Except Failure Value) :
    Prop :=
  (∀ i, Guard.bracket ∉ fill i) ∧
    ∃ v, answer = .ok v ∧
    v.plain.toList = fillTags Guard.default.protect segments fill

section

variable {segments : List Segment} {text : Text}

/-- Literal text without the bracket begins no default sentinel. -/
theorem handles_default (hBracket : ∀ s ∈ segments, Guard.bracket ∉ s.own)
    {literal : Text} (hMem : .literal literal ∈ segments) :
    ∀ x ∈ literal, Guard.default.Handles x := by
  intro x hx _
  apply Guard.leaves_default
  rintro rfl
  exact hBracket _ hMem hx

/-- Native tags have the bracket only in their contents. -/
theorem bracket_not_mem_tagForms
    (hBracket : ∀ s ∈ segments, Guard.bracket ∉ s.own) (i : Nat) :
    Guard.bracket ∉ tagForms segments i := by
  intro hMem
  rcases mem_tagForms hMem with hOpen | hClose | ⟨s, hSegment, hOwn⟩
  · exact absurd hOpen (by decide)
  · exact absurd hClose (by decide)
  · exact hBracket s hSegment hOwn

/-- Text without the bracket begins no default sentinel. -/
theorem leaves_default_of_not_mem {fill : Nat → Text}
    (hFill : ∀ i, Guard.bracket ∉ fill i) :
    ∀ i, ∀ x ∈ fill i, Guard.default.Leaves x := fun i _ hx =>
  Guard.leaves_default fun hSame => hFill i (hSame ▸ hx)

/-- What is made of an engine's answer that keeps the text. -/
theorem restored_of_keepsText {Program : Type} {t : Template Program}
    {fill : Nat → Text} {answer : Except Failure Value} (hGuard : t.guard = .default)
    (hBracket : ∀ s ∈ segments, Guard.bracket ∉ s.own)
    (hKeeps : KeepsText segments fill answer) :
    t.restored answer = .ok (fillTags id segments fill) := by
  obtain ⟨hFill, v, rfl, hText⟩ := hKeeps
  show orFail .ofGuard (t.guard.restore v.plain.toList) = _
  rw [hGuard, hText, Guard.restore_fillTags Guard.unambiguous_default
    (fun _ hMem => handles_default hBracket hMem) (leaves_default_of_not_mem hFill)]
  rfl

/-- An engine that answers the native text keeps it: every tag is replaced by
its native form. -/
theorem keepsText_of_echo {answer : Except Failure Value} {v : Value}
    (hComplete : Complete segments)
    (hBracket : ∀ s ∈ segments, Guard.bracket ∉ s.own)
    (hSource : assemble .default segments = .ok text) (hAnswer : answer = .ok v)
    (hEcho : v.plain.toList = text) :
    KeepsText segments (tagForms segments) answer := by
  refine ⟨bracket_not_mem_tagForms hBracket, v, hAnswer, ?_⟩
  rw [assemble, writeAll_of_complete _ hComplete] at hSource
  rw [hEcho, Except.ok.inj hSource]

end

/-- A template that is not native is made of its segments if the engine
compiles the text they are written as, and answers what the engine answers,
with the characters put back. -/
theorem compile_of_segments {Program : Type} (e : NumberedEngine Program)
    {markers : MarkerSet} (hNative : markers.isNative = false) {matchers : Matchers}
    (hMatchers : markers.compileMatchers = .ok matchers) {guard : Guard}
    {source : Value} {segments : List Segment}
    (hSegments : matchers.segmentsOf source = .ok segments) {path : Option String}
    {text : Text} (hText : assemble guard segments = .ok text) {program : Program}
    (hCompile : e.engine.compile (.text (String.ofList text)) path = .ok program)
    (requests : List Text) (j : Journal) :
    ∃ t cache after,
      compile e markers guard path source (MatcherCache.asked requests) j =
        ((.ok (.template t), cache), after) ∧
      ∀ calls later, (t.renders calls later).map (·.answer) =
        (e.engine.turns program calls).map fun turn =>
          (Template.draft segments guard path path e).restored
            (e.engine.render turn.1 turn.2).answer := by
  have hOutcome : (Template.draft segments guard path path e).outcome =
      .ok program := by
    show (orFail .ofWrite (assemble guard segments) >>= _) = _
    rw [hText]
    show orFail .engine (e.engine.compile (.text (String.ofList text)) path) = _
    rw [hCompile]
    rfl
  -- the cache and the scope do not change the answer of the work inside
  let cache := MatcherCache.asked requests
  let asked := j.logAll path (cache.insertionEvents (cache.ask markers.asks))
  let inside : Journal := { asked with scope := path.or asked.scope }
  obtain ⟨t, after, hCreate, hAnswers⟩ := Template.create_of_outcome rfl hOutcome
    markers.isTwoTier (inside.log (scannedEvent markers segments))
  have hWork : templateWork e markers guard path source inside = (.ok t, after) := by
    simp only [templateWork, hMatchers, hSegments]
    exact hCreate
  have hScope := (inScope_eq path (templateWork e markers guard path source) asked).1
  rw [hWork] at hScope
  refine ⟨t, cache.ask markers.asks,
    (asked.inScope path (templateWork e markers guard path source)).2, ?_, hAnswers⟩
  rw [compile_eq (MatcherCache.sound_asked requests)]
  simp only [compileAnew, hNative, Bool.false_eq_true, if_false, asked,
    cache] at hScope ⊢
  rw [hScope]
  rfl

/-- Rewriting with one pair of markers writes the segments as they are. -/
theorem rewriteBy_of_segments {markers : MarkerSet} {matchers : Matchers}
    {text : String} {segments : List Segment} (hSafe : markers.safe = none)
    (hMatchers : markers.compileMatchers = .ok matchers)
    (hSegments : matchers.segmentsOf (.text text) = .ok segments) :
    rewriteBy markers.escaped.source false text.toList =
      orFail .ofWrite (Segment.writeAll id [] segments) := by
  obtain ⟨escaped, hCompile, hRest⟩ := bind_eq_ok hMatchers
  rw [hSafe] at hRest
  obtain rfl := Except.ok.inj hRest
  have hScan : scan escaped .escaped text.toList = .ok segments :=
    orFail_eq_ok hSegments
  rw [rewriteBy, hCompile]
  show (orFail .ofScan (scan escaped .escaped text.toList) >>= _) = _
  rw [hScan]
  rfl

/-- A template with the default guard, whatever its markers are, whether it
is compiled when it is made or later, and however often it is rendered.  Its
native text can be put together.  If the engine compiles that text, the
template is made; and whenever the engine's answers keep the text outside the
tags, the template answers the segments in order, the literal ones as they
were written and the engine's texts in the place of the tags.  An engine that
answers the native text as it is gives the segments written without a guard,
which for one pair of markers is the rewritten template. -/
theorem compile_guard_invisible {Program : Type} (e : NumberedEngine Program)
    {markers : MarkerSet} (hNative : markers.isNative = false) {matchers : Matchers}
    (hMatchers : markers.compileMatchers = .ok matchers) {text : String}
    (hBracket : Guard.bracket ∉ text.toList) {segments : List Segment}
    (hSegments : matchers.segmentsOf (.text text) = .ok segments)
    (hComplete : Complete segments) (path : Option String) (requests : List Text)
    (j : Journal) :
    ∃ source unguarded, assemble .default segments = .ok source ∧
      Segment.writeAll id [] segments = .ok unguarded ∧
      (markers.safe = none →
        rewriteBy markers.escaped.source false text.toList = .ok unguarded) ∧
      ∀ program, e.engine.compile (.text (String.ofList source)) path =
        .ok program →
        ∃ t cache after,
          compile e markers .default path (.text text) (MatcherCache.asked requests) j =
            ((.ok (.template t), cache), after) ∧
          (∀ calls later (fill : Program → Call → Nat → Text),
            (∀ turn ∈ e.engine.turns program calls,
              KeepsText segments (fill turn.1 turn.2)
                (e.engine.render turn.1 turn.2).answer) →
            (t.renders calls later).map (·.answer) = (e.engine.turns program calls).map
              fun turn => .ok (fillTags id segments (fill turn.1 turn.2))) ∧
          ∀ calls later,
            (∀ turn ∈ e.engine.turns program calls, ∃ v,
              (e.engine.render turn.1 turn.2).answer = .ok v ∧
              v.plain.toList = source) →
            (t.renders calls later).map (·.answer) = calls.map fun _ =>
              .ok unguarded := by
  have hOwn : ∀ s ∈ segments, Guard.bracket ∉ s.own := fun s hSegment hMem =>
    hBracket (mem_text_of_segmentsOf hSegments hSegment hMem)
  have hSource := writeAll_of_complete Guard.default.protect hComplete
  have hUnguarded := writeAll_of_complete id hComplete
  refine ⟨_, _, hSource, hUnguarded, fun hSafe => ?_, fun program hCompile => ?_⟩
  · rw [rewriteBy_of_segments hSafe hMatchers hSegments, hUnguarded]
    rfl
  · obtain ⟨t, cache, after, hTemplate, hAnswers⟩ :=
      compile_of_segments e hNative hMatchers hSegments hSource hCompile requests j
    have hKept : ∀ calls later (fill : Program → Call → Nat → Text),
        (∀ turn ∈ e.engine.turns program calls,
          KeepsText segments (fill turn.1 turn.2)
          (e.engine.render turn.1 turn.2).answer) →
        (t.renders calls later).map (·.answer) = (e.engine.turns program calls).map
          fun turn => .ok (fillTags id segments (fill turn.1 turn.2)) := by
      intro calls later fill hKeeps
      rw [hAnswers calls later]
      exact List.map_congr_left fun turn hTurn =>
        restored_of_keepsText rfl hOwn (hKeeps turn hTurn)
    refine ⟨t, cache, after, hTemplate, hKept, fun calls later hEcho => ?_⟩
    refine (hKept calls later (fun _ _ => tagForms segments) fun turn hTurn => ?_).trans
      (e.engine.map_turns_const program calls _)
    obtain ⟨v, hAnswer, hText⟩ := hEcho turn hTurn
    exact keepsText_of_echo hComplete hOwn hSource hAnswer hText

/-- Tags of both kinds between braces and a backslash, rendered by the
mustache engine. -/
theorem compile_guard_invisible_mustache :
    let markers : MarkerSet := ⟨⟨.literal "<%".toList, .literal "%>".toList⟩,
      some ⟨.literal "<<%".toList, .literal "%>>".toList⟩, by decide⟩
    let call : Call := ⟨.plain (.dict [(.text "name", .text "a&b")]), none, none⟩
    ∃ t cache after,
      compile ⟨none, Engine.mustache⟩ markers .default none
          (.text "\x7b<% name %>\\<<%name%>>\x7d") (MatcherCache.asked []) .empty =
        ((.ok (.template t), cache), after) ∧
      (t.renders [call] after).map (·.answer) =
        [.ok "\x7ba&amp;b\\a&b\x7d".toList] := by
  intro markers call
  let segments : List Segment :=
    [.literal "\x7b".toList, .tag (some " name ".toList) .escaped,
    .literal "\\".toList, .tag (some "name".toList) .safe, .literal "\x7d".toList]
  let fill : Nat → Text := fun i => if i = 0 then "a&amp;b".toList else "a&b".toList
  have hDirect :
      directSegments ⟨"<%".toList, "%>".toList⟩
      (some ⟨"<<%".toList, "%>>".toList⟩)
      "\x7b<% name %>\\<<%name%>>\x7d".toList = segments := by
    decide +kernel
  have hSegments := segmentsOf_plain ⟨"<%".toList, "%>".toList⟩
    (some ⟨"<<%".toList, "%>>".toList⟩) "\x7b<% name %>\\<<%name%>>\x7d"
  rw [hDirect] at hSegments
  have hEscaped : markers.escaped = PlainPair.markers ⟨"<%".toList, "%>".toList⟩ :=
    rfl
  have hSafe : markers.safe =
      (some ⟨"<<%".toList, "%>>".toList⟩ : Option PlainPair).map
      PlainPair.markers := rfl
  have hMatchers := compileMatchers_of_plain hEscaped hSafe
  have hComplete : Complete segments := by
    intro s hMem variant hSame
    subst hSame
    simp [segments] at hMem
  obtain ⟨source, _, hSource, -, -, hPrograms⟩ := compile_guard_invisible
    ⟨none, Engine.mustache⟩ (by decide) hMatchers (by decide +kernel) hSegments
    hComplete none [] .empty
  have hAnswer : ((assemble .default segments).toOption.bind fun source =>
      (Engine.mustache.compile (.text (String.ofList source)) none).toOption.bind
        fun program => (Engine.mustache.render program call).answer.toOption.map
          fun v => v.plain.toList) =
      some (fillTags Guard.default.protect segments fill) := by
    decide +kernel
  rw [hSource] at hAnswer
  change (Engine.mustache.compile (.text (String.ofList source)) none).toOption.bind _ =
    _
    at hAnswer
  obtain ⟨program, hProgram, hRendered⟩ := Option.bind_eq_some_iff.mp hAnswer
  obtain ⟨v, hValue, hText⟩ := Option.map_eq_some_iff.mp hRendered
  obtain ⟨t, cache, after, hTemplate, hKept, -⟩ :=
    hPrograms program (ok_of_toOption hProgram)
  refine ⟨t, cache, after, hTemplate, hKept [call] after (fun _ _ => fill)
    fun turn hTurn => ?_⟩
  obtain rfl := List.mem_singleton.mp hTurn
  have hFill : ∀ i, Guard.bracket ∉ fill i := by
    intro i
    show Guard.bracket ∉ if i = 0 then _ else _
    split <;> decide
  exact ⟨hFill, v, ok_of_toOption hValue, hText⟩

end Retag

import Retag.Proofs.Cache.Requests
import Retag.Proofs.Guard.Invisible

/-!
# Segments spell their text

Taking a text apart with plain markers loses nothing.  If every segment is
written back the way it stood in the template, literal text as it is and a
tag's content between the markers it was found with, the text comes out
again.  With two pairs of markers the second one works on pieces that the
first one cut, so the pieces spell the text and their own segments spell the pieces.

The engine's own markers are written as native tags, so writing the segments
as native text gives the template itself: nothing is lost when such a
template goes to the engine as it is.

## Main results

* `TagForm.spelling_segmentsBehind`: one form of tags.
* `spelling_directSegments`: the segments of every plain marker set.
* `segments_spell_text`: templates with plain markers, and with native ones.
-/

namespace Retag

open Log

/-! ## Writing segments back -/

/-- The form that tags of a variant have in a template, if it has such tags. -/
abbrev TagForms := Variant → Option TagForm

namespace Segment

/-- A segment as it stands in a template. -/
def spelling? (forms : TagForms) : Segment → Option Text
  | .literal text => some text
  | .tag inner variant => do return (← forms variant).tagText (← inner)

/-- Segments as they stand in a template, one after the other. -/
def spellingAll? (forms : TagForms) : List Segment → Option Text
  | [] => some []
  | s :: rest => do return (← s.spelling? forms) ++ (← spellingAll? forms rest)

variable {forms : TagForms}

theorem spellingAll?_cons {s : Segment} {rest : List Segment} {here behind : Text}
    (hHere : s.spelling? forms = some here)
    (hBehind : spellingAll? forms rest = some behind) :
    spellingAll? forms (s :: rest) = some (here ++ behind) := by
  rw [spellingAll?, hHere, hBehind]
  rfl

theorem spellingAll?_append {front back : List Segment} {here behind : Text}
    (hHere : spellingAll? forms front = some here)
    (hBehind : spellingAll? forms back = some behind) :
    spellingAll? forms (front ++ back) = some (here ++ behind) := by
  induction front generalizing here with
  | nil =>
      obtain rfl := Option.some.inj hHere
      exact hBehind
  | cons s rest ih =>
      rw [spellingAll?] at hHere
      obtain ⟨first, hFirst, hHere⟩ := Option.bind_eq_some_iff.mp hHere
      obtain ⟨later, hLater, hHere⟩ := Option.bind_eq_some_iff.mp hHere
      obtain rfl := Option.some.inj hHere
      rw [List.append_assoc]
      exact spellingAll?_cons hFirst (ih hLater)

theorem spellingAll?_literalUnlessEmpty (text : Text) :
    spellingAll? forms (literalUnlessEmpty text) = some text := by
  cases text with
  | nil => rfl
  | cons x text => exact congrArg some (List.append_nil _)

/-- Segments that each are taken apart further spell what they spelled. -/
theorem spellingAll?_flatMap {pieces : List Segment} {apart : Segment → List Segment}
    {text : Text} (hPieces : spellingAll? forms pieces = some text)
    (hApart : ∀ s ∈ pieces, spellingAll? forms (apart s) = s.spelling? forms) :
    spellingAll? forms (pieces.flatMap apart) = some text := by
  induction pieces generalizing text with
  | nil => exact hPieces
  | cons s rest ih =>
      rw [spellingAll?] at hPieces
      obtain ⟨first, hFirst, hPieces⟩ := Option.bind_eq_some_iff.mp hPieces
      obtain ⟨later, hLater, hPieces⟩ := Option.bind_eq_some_iff.mp hPieces
      obtain rfl := Option.some.inj hPieces
      have hHead := hApart s List.mem_cons_self
      rw [hFirst] at hHead
      rw [List.flatMap_cons]
      exact spellingAll?_append hHead
        (ih hLater fun other hMem => hApart other (List.mem_cons_of_mem _ hMem))

/-- Where all tags have their native form, native text is what the segments spell. -/
theorem writeAll_of_spellingAll? {segments : List Segment} {text : Text}
    (hForms : ∀ variant form, forms variant = some form →
      ∀ inner, form.tagText inner = wrap variant inner)
    (hSpelling : spellingAll? forms segments = some text) :
    writeAll id [] segments = .ok text := by
  induction segments generalizing text with
  | nil => exact congrArg Except.ok (Option.some.inj hSpelling)
  | cons s rest ih =>
      rw [spellingAll?] at hSpelling
      obtain ⟨first, hFirst, hSpelling⟩ := Option.bind_eq_some_iff.mp hSpelling
      obtain ⟨later, hLater, hSpelling⟩ := Option.bind_eq_some_iff.mp hSpelling
      obtain rfl := Option.some.inj hSpelling
      have hWrite : s.write id [] = .ok first := by
        cases s with
        | literal text => exact congrArg Except.ok (Option.some.inj hFirst)
        | tag inner variant =>
            obtain ⟨form, hForm, hFirst⟩ := Option.bind_eq_some_iff.mp hFirst
            obtain ⟨content, rfl, hFirst⟩ := Option.bind_eq_some_iff.mp hFirst
            obtain rfl := Option.some.inj hFirst
            rw [hForms variant form hForm]
            rfl
      rw [writeAll, hWrite, ih hLater]
      rfl

end Segment

open Segment

namespace TagForm

/-! ## One form of tags, and two -/

section

variable {forms : TagForms} {form : TagForm} {variant : Variant}

theorem spelling_segmentsBehind (hForm : forms variant = some form) (text : Text) :
    spellingAll? forms (form.segmentsBehind variant text) = some text := by
  fun_induction form.segmentsBehind variant text with
  | case1 text hNext => exact spellingAll?_literalUnlessEmpty text
  | case2 text skipped inner after hNext ih =>
      have hTag : (Segment.tag (some inner) variant).spelling? forms =
          some (form.tagText inner) := by
        rw [spelling?, hForm]
        rfl
      rw [(nextTag?_eq_some hNext).1, List.append_assoc]
      exact spellingAll?_append (spellingAll?_literalUnlessEmpty skipped)
        (spellingAll?_cons hTag ih)

theorem spelling_segments (hForm : forms variant = some form) (text : Text) :
    spellingAll? forms (form.segments variant text) = some text := by
  unfold segments
  split
  · exact spellingAll?_cons rfl rfl |>.trans (congrArg some (List.append_nil _))
  · exact spelling_segmentsBehind hForm text

end

theorem spelling_twoTier {forms : TagForms} {safe escaped : TagForm}
    (hSafe : forms .safe = some safe) (hEscaped : forms .escaped = some escaped)
    (text : Text) :
    spellingAll? forms (twoTier safe escaped text) = some text := by
  refine spellingAll?_flatMap (spelling_segments hSafe text) fun s _ => ?_
  cases s with
  | literal piece => exact spelling_segments hEscaped piece
  | tag inner variant =>
      cases hTag : (Segment.tag inner variant).spelling? forms with
      | none => simp only [spellingAll?, hTag]; rfl
      | some here => exact (spellingAll?_cons hTag rfl).trans (by rw [List.append_nil])

end TagForm

/-! ## Plain marker sets -/

/-- The forms of the tags of plain markers. -/
def formsOf (escaped : PlainPair) (safe : Option PlainPair) : TagForms
  | .escaped => some escaped.form
  | .safe => safe.map PlainPair.form

theorem spelling_directSegments (escaped : PlainPair) (safe : Option PlainPair)
    (text : Text) :
    spellingAll? (formsOf escaped safe) (directSegments escaped safe text) =
      some text := by
  cases safe with
  | none => exact TagForm.spelling_segments rfl text
  | some safe => exact TagForm.spelling_twoTier rfl rfl text

/-- The engine's own markers are written as they are found. -/
theorem tagText_of_isNative {markers : MarkerSet} {escaped : PlainPair}
    {safe : Option PlainPair} (hEscaped : markers.escaped = escaped.markers)
    (hSafe : markers.safe = safe.map PlainPair.markers)
    (hNative : markers.isNative = true) (variant : Variant) (form : TagForm)
    (hForm : formsOf escaped safe variant = some form)
    (inner : Text) : form.tagText inner = wrap variant inner := by
  obtain ⟨opening, closing⟩ := escaped
  simp only [MarkerSet.isNative, hEscaped, hSafe, PlainPair.markers,
    MarkerSet.nativePair, Bool.and_eq_true, beq_iff_eq, MarkerPair.mk.injEq,
    Marker.literal.injEq, Bool.or_eq_true] at hNative
  obtain ⟨⟨rfl, rfl⟩, hSecond⟩ := hNative
  cases variant with
  | escaped =>
      obtain rfl := Option.some.inj hForm
      rfl
  | safe =>
      cases safe with
      | none => cases hForm
      | some safe =>
          obtain ⟨opening, closing⟩ := safe
          simp only [Option.map_some, reduceCtorEq, PlainPair.markers,
            MarkerSet.nativeSafePair, Option.some.injEq, MarkerPair.mk.injEq,
            Marker.literal.injEq, false_or] at hSecond
          obtain ⟨rfl, rfl⟩ := hSecond
          obtain rfl := Option.some.inj hForm
          rfl

/-! ## Without a guard -/

/-- The guard that protects no character. -/
def Guard.idle : Guard := ⟨[]⟩

@[simp] theorem Guard.protect_idle : Guard.idle.protect = id := by
  funext text
  exact List.flatMap_singleton' text

variable {Program : Type}

/-- A template that is not guarded asks the engine for the text that its
segments are written as. -/
theorem buildCalls_draft_idle {segments : List Segment} {text : String}
    (hText : writeAll id [] segments = .ok text.toList) (path : Option String)
    (e : NumberedEngine Program) :
    (Template.draft segments .idle path path e).buildCalls =
      [⟨e.number, .text text, path⟩] ∧
      (Template.draft segments .idle path path e).outcome =
        orFail .engine (e.engine.compile (.text text) path) := by
  have hNative : (Template.draft segments .idle path path e).nativeText =
      .ok text.toList := by
    show orFail .ofWrite (writeAll Guard.idle.protect [] segments) = _
    rw [Guard.protect_idle, hText]
    rfl
  constructor
  · rw [Template.buildCalls, hNative]
    simp only [String.ofList_toList]
    rfl
  · rw [Template.outcome, hNative]
    show orFail .engine (e.engine.compile (.text (String.ofList text.toList)) path) = _
    rw [String.ofList_toList]

/-- Taking a source apart makes a template of its segments, and the engine is
asked for nothing before that. -/
theorem compileSegments_of_segments {markers : MarkerSet} {matchers : Matchers}
    (hMatchers : markers.compileMatchers = .ok matchers) {source : Value}
    {segments : List Segment} (hSegments : matchers.segmentsOf source = .ok segments)
    (e : NumberedEngine Program) (guard : Guard) (path : Option String)
    (requests : List Text) (j : Journal) :
    ∃ cache k, k.calls = j.calls ∧
      compileSegments e markers guard path source (MatcherCache.asked requests) j =
        let made := Template.create markers.isTwoTier
          (Template.draft segments guard path path e) k
        ((made.1, cache), made.2) := by
  have hWork :=
    compileSegments_eq (MatcherCache.sound_asked requests) e markers guard path
    source j
  simp only [templateWork, hMatchers, hSegments, templateOf] at hWork
  refine ⟨_, _, ?_, hWork⟩
  rfl

/-- A template with plain markers is taken apart, whatever the cache of
matchers was asked before, and its segments spell it.  With the engine's own
markers, writing the segments without a guard gives the template itself, so
the engine is asked for the same source whether it gets the template as it is
or what the segments are written as. -/
theorem segments_spell_text {markers : MarkerSet} {escaped : PlainPair}
    {safe : Option PlainPair} (hEscaped : markers.escaped = escaped.markers)
    (hSafe : markers.safe = safe.map PlainPair.markers) (requests : List Text)
    (j : Journal) (text : String) :
    ∃ matchers segments,
      ((MatcherCache.asked requests).matchers markers j).1 = .ok matchers ∧
      matchers.segmentsOf (.text text) = .ok segments ∧
      spellingAll? (formsOf escaped safe) segments = some text.toList ∧
      (markers.isNative = true →
        writeAll id [] segments = .ok text.toList ∧
        (markers.safe = none →
          rewriteBy markers.escaped.source false text.toList = .ok text.toList) ∧
        ∀ (e : NumberedEngine Program) (guard : Guard) (path : Option String),
          let cache := MatcherCache.asked requests
          let direct := compile e markers guard path (.text text) cache j
          let t := Template.draft segments .idle path path e
          direct.1.1 = t.outcome.map (.native e.engine) ∧
            direct.2.calls = j.calls ++ t.buildCalls ∧
            t.buildCalls = [⟨e.number, .text text, path⟩] ∧
            ∃ after k, k.calls = j.calls ∧
              compileSegments e markers .idle path (.text text) cache j =
                let made := Template.create markers.isTwoTier t k
                ((made.1, after), made.2)) := by
  have hMatchers := compileMatchers_of_plain hEscaped hSafe
  have hSegments := segmentsOf_plain escaped safe text
  have hSpelling := spelling_directSegments escaped safe text.toList
  refine ⟨_, _, ?_, hSegments, hSpelling, fun hNative => ?_⟩
  · rw [MatcherCache.matchers_eq (MatcherCache.sound_asked requests), hMatchers]
  · have hText :=
      writeAll_of_spellingAll? (tagText_of_isNative hEscaped hSafe hNative) hSpelling
    refine ⟨hText, fun hNone => ?_, fun e guard path => ?_⟩
    · rw [rewriteBy_of_segments hNone hMatchers hSegments, hText]
      rfl
    · obtain ⟨hCalls, hOutcome⟩ := buildCalls_draft_idle hText path e
      have hDirect :
          compile e markers guard path (.text text) (MatcherCache.asked requests) j =
          (((compileNative e (.text text) path j).1, MatcherCache.asked requests),
            (compileNative e (.text text) path j).2) := if_pos hNative
      refine ⟨?_, ?_, hCalls, ?_⟩
      · rw [hDirect, hOutcome]
        rfl
      · rw [hDirect, hCalls]
        rfl
      · exact compileSegments_of_segments hMatchers hSegments e .idle path requests j

/-- A tag that begins with an equals sign is text, and a pair of closing
braces stands inside a safe tag. -/
theorem segments_spell_text_unbalanced :
    let markers : MarkerSet :=
      ⟨MarkerSet.nativePair, some MarkerSet.nativeSafePair, by decide⟩
    let escaped : PlainPair := ⟨MarkerSet.nativeOpening, MarkerSet.nativeClosing⟩
    let safe : PlainPair :=
      ⟨MarkerSet.nativeSafeOpening, MarkerSet.nativeSafeClosing⟩
    let text := "\x7b\x7b=x\x7d\x7d\x7b\x7b\x7ba\x7d\x7db\x7d\x7d\x7d"
    let segments : List Segment := [.literal "\x7b\x7b=x\x7d\x7d".toList,
      .tag (some "a\x7d\x7db".toList) .safe]
    markers.escaped = escaped.markers ∧
    markers.safe = (some safe).map PlainPair.markers ∧
      markers.isNative = true ∧
      ∃ matchers,
        ((MatcherCache.asked [nativeTagSource]).matchers markers .empty).1 =
          .ok matchers ∧
        matchers.segmentsOf (.text text) = .ok segments ∧
        spellingAll? (formsOf escaped (some safe)) segments = some text.toList ∧
        writeAll id [] segments = .ok text.toList := by
  intro markers escaped safe text segments
  have hNative : markers.isNative = true := by decide
  have hEscaped : markers.escaped = escaped.markers := rfl
  have hSafe : markers.safe = (some safe).map PlainPair.markers := rfl
  obtain ⟨matchers, found, hMatchers, hFound, hSpelling, hWritten⟩ :=
    @segments_spell_text Program markers escaped (some safe) hEscaped hSafe
      [nativeTagSource] .empty text
  have hDirect : directSegments escaped (some safe) text.toList = segments := by
    decide +kernel
  have hSame : found = segments := by
    have hPlain := segmentsOf_plain escaped (some safe) text
    have hCompiled := compileMatchers_of_plain hEscaped hSafe
    have hAsked := hMatchers
    rw [MatcherCache.matchers_eq (MatcherCache.sound_asked _), hCompiled] at hAsked
    rw [Except.ok.inj hAsked, hFound, hDirect] at hPlain
    exact Except.ok.inj hPlain
  rw [hSame] at hFound hSpelling hWritten
  exact ⟨hEscaped, hSafe, hNative, matchers, hMatchers, hFound, hSpelling,
    (hWritten hNative).1⟩

end Retag

import Retag.Proofs.Guard.Invisible
import Retag.Proofs.Tag.Written

/-!
# Reading native text

Native text is written for the engine, but it can be taken apart again with
the engine's own markers.  What comes out is what was written: once literal
text is protected it has no braces, so a run of opening braces is the opening
marker of one tag, and a content without braces ends where its closing marker begins.

So guarded segments are segments that can be written with any markers which do
not get into each other's way, and the engine's own do not: three braces stand
nowhere but where a safe tag begins.

## Main results

* `TagForm.keepsOff_own`: the engine's markers.
* `TagForm.twoTier_nativeText`: both readings of native text.
* `native_text_reads_back`: what is read from guarded segments.
-/

namespace Retag

open Segment

/-! ## Contents and segments that can be read -/

/-- A content without braces that does not begin with an equals sign. -/
structure PlainContent (inner : Text) : Prop where
  ne_nil : inner ≠ []
  no_opening : '{' ∉ inner
  no_closing : '}' ∉ inner
  no_equals : inner.head? ≠ some '='

instance (inner : Text) : Decidable (PlainContent inner) :=
  decidable_of_iff
    (inner ≠ [] ∧ '{' ∉ inner ∧ '}' ∉ inner ∧ inner.head? ≠ some '=')
    ⟨fun ⟨hNe, hOpening, hClosing, hEquals⟩ =>
      ⟨hNe, hOpening, hClosing, hEquals⟩,
      fun ⟨hNe, hOpening, hClosing, hEquals⟩ =>
        ⟨hNe, hOpening, hClosing, hEquals⟩⟩

namespace Segment

/-- The native text of a segment. -/
def nativeText : Segment → Text
  | .literal text => text
  | .tag inner variant => wrap variant (inner.getD [])

/-- Segments whose native text can be read back: literal text without opening
braces, and tags with a plain content. -/
inductive Readable : Segment → Prop
  | literal {text : Text} (hText : text ≠ []) (hOpening : '{' ∉ text) :
      Readable (.literal text)
  | tag {inner : Text} (hPlain : PlainContent inner) (variant : Variant) :
      Readable (.tag (some inner) variant)

/-- A segment with its literal text guarded. -/
def guarded (g : Guard) : Segment → Segment
  | .literal text => .literal (g.protect text)
  | .tag inner variant => .tag inner variant

end Segment

/-! ## The engine's own forms -/

namespace TagForm

/-- The form of the engine's own tags of a variant. -/
def own : Variant → TagForm
  | .escaped => .plain MarkerSet.nativeOpening MarkerSet.nativeClosing
  | .safe => .plain MarkerSet.nativeSafeOpening MarkerSet.nativeSafeClosing

theorem tagText_own (variant : Variant) (inner : Text) :
    (own variant).tagText inner = wrap variant inner := by
  cases variant <;> rfl

/-- Three braces stand nowhere in a closing and an opening marker of escaped tags. -/
theorem keepsOff_own : (own .safe).KeepsOff (own .escaped) := by decide

/-- Native text that can be read back is apart from the engine's markers. -/
theorem distinct_of_readable {s : Segment} (hReadable : s.Readable) :
    s.Distinct own := by
  have hMarkers : ∀ variant,
      (own variant).opening ≠ [] ∧ (own variant).closing ≠ [] ∧
        (∀ x ∈ (own variant).opening, x = '{') ∧
        ∀ x ∈ (own variant).closing, x = '}' := by
    intro variant
    cases variant with
    | escaped =>
        simp [own, TagForm.plain, MarkerSet.nativeOpening, MarkerSet.nativeClosing]
    | safe =>
        simp [own, TagForm.plain, MarkerSet.nativeSafeOpening,
          MarkerSet.nativeSafeClosing]
  cases hReadable with
  | literal hText hOpening =>
      refine .literal hText fun variant => ⟨(hMarkers variant).1, fun x hMem => ?_⟩
      rw [(hMarkers variant).2.2.1 x hMem]
      exact hOpening
  | tag hPlain variant =>
      refine .tag hPlain.ne_nil hPlain.no_equals (fun other => ?_) variant
      obtain ⟨hOpening, hClosing, hOpen, hClose⟩ := hMarkers other
      refine ⟨hOpening, hClosing, fun x hMem => ?_, fun x hMem => ?_⟩
      · rw [hOpen x hMem]
        exact hPlain.no_opening
      · rw [hClose x hMem]
        exact hPlain.no_closing

theorem written_own (s : Segment) : s.written own = s.nativeText := by
  cases s with
  | literal text => rfl
  | tag inner variant => exact tagText_own variant _

/-- Both readings of native text. -/
theorem twoTier_nativeText {segments : List Segment} (hNe : segments ≠ [])
    (hReadable : ∀ s ∈ segments, s.Readable) (hApart : Apart segments) :
    twoTier (own .safe) (own .escaped) (segments.flatMap nativeText) = segments := by
  rw [← funext written_own]
  exact twoTier_written keepsOff_own hNe
    (fun s hMem => distinct_of_readable (hReadable s hMem)) hApart

end TagForm

/-! ## Guarded segments -/

namespace Guard

/-- Protected text has no character that native text gives a meaning. -/
theorem ne_of_mem_protect {text : Text} {x : Char}
    (hMem : x ∈ Guard.default.protect text) :
    x ≠ '{' ∧ x ≠ '}' ∧ x ≠ '\\' := by
  have hSentinels : ∀ e ∈ Guard.default.entries, '{' ∉ e.2 ∧ '}' ∉ e.2 ∧
      '\\' ∉ e.2 := by
    decide
  obtain ⟨c, -, hWritten⟩ := List.mem_flatMap.mp hMem
  cases hLookup : Guard.default.entries.lookup c with
  | some sentinel =>
      rw [hLookup, Option.getD_some] at hWritten
      obtain ⟨hOpening, hClosing, hBackslash⟩ :=
        hSentinels _ (mem_of_lookup hLookup)
      exact ⟨ne_of_mem_of_not_mem hWritten hOpening,
        ne_of_mem_of_not_mem hWritten hClosing,
        ne_of_mem_of_not_mem hWritten hBackslash⟩
  | none =>
      rw [hLookup, Option.getD_none, List.mem_singleton] at hWritten
      subst hWritten
      refine ⟨?_, ?_, ?_⟩ <;> (rintro rfl; cases hLookup)

theorem protect_ne_nil {text : Text} (hNe : text ≠ []) :
    Guard.default.protect text ≠ [] := by
  obtain ⟨x, rest, rfl⟩ := List.exists_cons_of_ne_nil hNe
  rw [protect, List.flatMap_cons]
  refine List.append_ne_nil_of_left_ne_nil ?_ _
  cases hLookup : Guard.default.entries.lookup x with
  | some sentinel =>
      exact unambiguous_default.sentinel_ne (x, sentinel) (mem_of_lookup hLookup)
  | none => exact List.cons_ne_nil x []

end Guard

namespace Segment

theorem fillTags_tagForms (g : Guard) (segments : List Segment) :
    fillTags g.protect segments (tagForms segments) =
      (segments.map (guarded g)).flatMap nativeText := by
  induction segments with
  | nil => rfl
  | cons s rest ih =>
      rw [List.map_cons, List.flatMap_cons, ← ih]
      cases s <;> rfl

theorem isTag_guarded (g : Guard) (s : Segment) : (s.guarded g).isTag = s.isTag := by
  cases s <;> rfl

end Segment

/-- Guarded segments are read back from their native text with the engine's
own markers: the same segments in the same order, the literal ones as they
were protected, without any brace or backslash.  Literal text may be any; the
list is not empty, its literal segments are not empty and have tags beside
them, and its tags have contents without braces that do not begin with an
equals sign. -/
theorem native_text_reads_back {segments : List Segment} (hNe : segments ≠ [])
    (hApart : Apart segments)
    (hLiterals : ∀ text, .literal text ∈ segments → text ≠ [])
    (hTags : ∀ inner variant, .tag inner variant ∈ segments →
      ∃ content, inner = some content ∧ PlainContent content) :
    ∃ text safe escaped, assemble .default segments = .ok text ∧
      matcherOf MarkerSet.nativeSafePair.source = .ok safe ∧
      matcherOf MarkerSet.nativePair.source = .ok escaped ∧
      recompose safe escaped text = .ok (segments.map (guarded .default)) ∧
      ∀ piece, .literal piece ∈ segments.map (guarded .default) →
        '{' ∉ piece ∧ '}' ∉ piece ∧ '\\' ∉ piece := by
  have hComplete : Complete segments := by
    rintro s hMem variant rfl
    obtain ⟨content, hNone, -⟩ := hTags none variant hMem
    cases hNone
  have hReadable : ∀ s ∈ segments.map (guarded .default), s.Readable := by
    intro s hMem
    obtain ⟨plain, hPlain, rfl⟩ := List.mem_map.mp hMem
    cases plain with
    | literal text =>
        exact .literal (Guard.protect_ne_nil (hLiterals text hPlain)) fun hBrace =>
          (Guard.ne_of_mem_protect hBrace).1 rfl
    | tag inner variant =>
        obtain ⟨content, rfl, hContent⟩ := hTags inner variant hPlain
        exact .tag hContent variant
  have hGuarded : Apart (segments.map (guarded .default)) := by
    rw [Apart, List.isChain_map]
    simpa only [isTag_guarded] using hApart
  have hText : assemble .default segments = .ok _ := writeAll_of_complete _ hComplete
  rw [fillTags_tagForms] at hText
  have hSafe := PlainPair.matcherOf_markers ⟨MarkerSet.nativeSafeOpening,
    MarkerSet.nativeSafeClosing⟩
  have hEscaped :=
    PlainPair.matcherOf_markers ⟨MarkerSet.nativeOpening, MarkerSet.nativeClosing⟩
  refine ⟨_, _, _, hText, hSafe, hEscaped, ?_, fun piece hMem => ?_⟩
  · refine (TagForm.recompose_matcher (.own .safe) (.own .escaped) _).trans ?_
    rw [TagForm.twoTier_nativeText (by simpa using hNe) hReadable hGuarded]
  · obtain ⟨plain, hPlain, hSame⟩ := List.mem_map.mp hMem
    cases plain with
    | tag inner variant => cases hSame
    | literal text =>
        obtain rfl := Segment.literal.inj hSame
        refine ⟨?_, ?_, ?_⟩
        · exact fun hChar => (Guard.ne_of_mem_protect hChar).1 rfl
        · exact fun hChar => (Guard.ne_of_mem_protect hChar).2.1 rfl
        · exact fun hChar => (Guard.ne_of_mem_protect hChar).2.2 rfl

/-- Tags of both kinds that touch, and braces, a backslash and a sentinel as
literal text between them. -/
theorem native_text_reads_back_crowded :
    let segments : List Segment := [.tag (some "a".toList) .escaped,
      .tag (some "#b".toList) .safe,
      .literal ("\x7b\\\x7d\x7d".toList ++ Guard.sentinel "HBSDELIM_OPEN_CURLY"),
      .tag (some " c".toList) .escaped, .literal "\x7d".toList]
    segments ≠ [] ∧ Apart segments ∧
      (∀ text, .literal text ∈ segments → text ≠ []) ∧
      (∀ inner variant, .tag inner variant ∈ segments →
        ∃ content, inner = some content ∧ PlainContent content) ∧
      ∃ text safe escaped, assemble .default segments = .ok text ∧
        matcherOf MarkerSet.nativeSafePair.source = .ok safe ∧
        matcherOf MarkerSet.nativePair.source = .ok escaped ∧
        recompose safe escaped text = .ok (segments.map (guarded .default)) := by
  intro segments
  have hNe : segments ≠ [] := List.cons_ne_nil _ _
  have hApart : Apart segments := by simp [segments, Apart, isTag]
  have hLiterals : ∀ text, .literal text ∈ segments → text ≠ [] := by
    intro text hMem
    simp only [segments, List.mem_cons, reduceCtorEq, false_or, Segment.literal.injEq,
      List.not_mem_nil, or_false] at hMem
    rcases hMem with rfl | rfl <;> decide
  have hTags : ∀ inner variant, .tag inner variant ∈ segments →
      ∃ content, inner = some content ∧ PlainContent content := by
    intro inner variant hMem
    simp only [segments, List.mem_cons, reduceCtorEq, false_or, Segment.tag.injEq,
      List.not_mem_nil, or_false] at hMem
    rcases hMem with ⟨rfl, -⟩ | ⟨rfl, -⟩ | ⟨rfl, -⟩ <;>
      exact ⟨_, rfl, by decide⟩
  obtain ⟨text, safe, escaped, hText, hSafe, hEscaped, hRead, -⟩ :=
    native_text_reads_back hNe hApart hLiterals hTags
  exact ⟨hNe, hApart, hLiterals, hTags, text, safe, escaped, hText, hSafe, hEscaped,
    hRead⟩

end Retag

import Retag.Proofs.Guard.Domain
import Retag.Proofs.Guard.Invisible

/-!
# The native text without sentinels

The native source of a template is there to be looked at: it is the text that
the engine gets, with the sentinels taken out of it.  They are looked for in
the joined text, where nothing tells any more which segment a character is
from.  A sentinel begins at no character of a native tag, though, and what
stands behind one does not change how it is read.  So the joined text is read
one segment after the other, and what is taken out is what the guard wrote for
the literal ones.

## Main results

* `Guard.strip_fillTags`: any guard none of whose sentinels begins another one,
  with any texts in the place of the tags.
* `native_source_drops_guarded`: templates with the default guard.
-/

namespace Retag

open Segment

/-! ## Removing sentinels between tags -/

/-- Removing the sentinels from segments with protected literal text removes
the guarded characters of the literal segments, and nothing from the texts in
the place of the tags. -/
theorem Guard.strip_fillTags {g : Guard} (hGuard : g.Unambiguous)
    {segments : List Segment}
    {fill : Nat → Text} (hLiterals : ∀ text, .literal text ∈ segments →
      ∀ x ∈ text, g.Handles x)
    (hFill : ∀ i, ∀ x ∈ fill i, g.Leaves x) :
    g.strip (fillTags g.protect segments fill) =
      fillTags (fun text => text.filter fun x => !g.guards x) segments fill := by
  rw [strip_eq_decode hGuard.toSolid, decode_fillTags hGuard hLiterals hFill,
    funext flatMap_echo_nothing]

namespace Segment

/-- A segment as the native source shows it: literal text without braces and
backslashes, and a tag in its native form. -/
def debugText : Segment → Text
  | .literal text => text.filter fun x => x != '{' && x != '}' && x != '\\'
  | .tag inner variant => wrap variant (inner.getD [])

theorem fillTags_debugText (segments : List Segment) :
    fillTags (fun text => text.filter fun x => !Guard.default.guards x) segments
      (tagForms segments) = segments.flatMap debugText := by
  induction segments with
  | nil => rfl
  | cons s rest ih =>
      rw [List.flatMap_cons, ← ih]
      cases s with
      | literal text =>
          rw [fillTags, funext Guard.guards_default]
          rfl
      | tag inner variant => rfl

/-- A tag without a content keeps the native text from being put together. -/
theorem writeAll_of_not_complete (literal : Text → Text) (mark : Text)
    {segments : List Segment} (hMissing : ¬ Complete segments) :
    writeAll literal mark segments = .error .absentInner := by
  induction segments with
  | nil =>
      have hNone : Complete [] := fun s hMem => absurd hMem List.not_mem_nil
      exact absurd hNone hMissing
  | cons s rest ih =>
      by_cases hHere : ∃ variant, s = .tag none variant
      · obtain ⟨variant, rfl⟩ := hHere
        rfl
      · have hRest : ¬ Complete rest := by
          intro hComplete
          apply hMissing
          intro t hMem variant hSame
          rcases List.mem_cons.mp hMem with hFirst | hLater
          · exact hHere ⟨variant, hFirst ▸ hSame⟩
          · exact hComplete t hLater variant hSame
        have hWritten : ∃ text, s.write literal mark = .ok text := by
          cases s with
          | literal text => exact ⟨_, rfl⟩
          | tag inner variant =>
              cases inner with
              | none => exact absurd ⟨variant, rfl⟩ hHere
              | some inner => exact ⟨_, rfl⟩
        obtain ⟨text, hText⟩ := hWritten
        rw [writeAll, hText, ih hRest]
        rfl

end Segment

/-! ## The native source -/

/-- The native source of a template with the default guard, whatever its
segments are, if neither literal text nor the content of a tag has the
character that the sentinels begin with: the segments in order, the literal
ones without their braces and backslashes, and the tags in their native form
with all that is in them.  If a tag has no content, there is no native text. -/
theorem native_source_drops_guarded {Program : Type} {t : Template Program}
    (hGuard : t.guard = .default)
    (hBracket : ∀ s ∈ t.segments, Guard.bracket ∉ s.own) :
    (Complete t.segments → t.nativeSource = .ok (t.segments.flatMap debugText)) ∧
      (¬ Complete t.segments → t.nativeSource = .error .absentInner) := by
  constructor
  · intro hComplete
    have hText : t.nativeText =
        .ok (fillTags Guard.default.protect t.segments (tagForms t.segments)) := by
      rw [Template.nativeText, hGuard, assemble, writeAll_of_complete _ hComplete]
      rfl
    have hStrip := Guard.strip_fillTags Guard.unambiguous_default
      (fun _ hMem => handles_default hBracket hMem)
      (leaves_default_of_not_mem (bracket_not_mem_tagForms hBracket))
    rw [fillTags_debugText] at hStrip
    rw [Template.nativeSource, hText, hGuard, ← hStrip]
    rfl
  · intro hMissing
    rw [Template.nativeSource, Template.nativeText, assemble,
      writeAll_of_not_complete _ _ hMissing]
    rfl

/-- Literal segments that touch, one of them empty, around tags whose contents
have braces, a backslash and the name of a sentinel. -/
theorem native_source_drops_guarded_crowded :
    let segments : List Segment := [.literal "a\x7b".toList, .literal [],
      .literal "HBSDELIM_OPEN_CURLY\\".toList, .tag (some "\x7bb\x7d\\".toList) .safe,
      .tag (some "HBSDELIM_BACKSLASH\x7d".toList) .escaped,
      .literal "\\\x7d\x7dc".toList]
    let t : Template _ := .draft segments .default none none ⟨none, Engine.mustache⟩
    t.guard = .default ∧ (∀ s ∈ t.segments, Guard.bracket ∉ s.own) ∧
      t.nativeSource = .ok ("aHBSDELIM_OPEN_CURLY".toList
        ++ "\x7b\x7b\x7b\x7bb\x7d\\\x7d\x7d\x7d".toList
        ++ "\x7b\x7bHBSDELIM_BACKSLASH\x7d\x7d\x7d".toList ++ "c".toList) := by
  intro segments t
  have hBracket : ∀ s ∈ t.segments, Guard.bracket ∉ s.own := by
    show ∀ s ∈ segments, Guard.bracket ∉ s.own
    decide
  have hComplete : Complete segments := by
    intro s hMem variant hSame
    subst hSame
    simp [segments] at hMem
  exact ⟨rfl, hBracket, (native_source_drops_guarded rfl hBracket).1 hComplete⟩

end Retag

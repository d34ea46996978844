import Mathlib.Logic.Function.Basic
import Retag.Proofs.Regex.Reading
import Retag.Proofs.Tag.Matcher

/-!
# Markers with the same fragment

The two pairs of a marker set have different markers.  What is searched for is
not the markers but their fragments, and from some markers the same fragment is
made: the flags of an expression are left out of it, and so are the anchors at
its ends, and an expression may spell out what is written for a plain text.
Plain texts are told apart by their fragments.  A backslash stands before a
character or not, depending on the character alone, so the fragment is read
back one character at a time; and an opening fragment ends in an equals sign or
in the look ahead for one, so the two kinds do not meet.

## Main results

* `escapeLiteral_injective`, `plainOpening_injective`: fragments of plain texts.
* `Marker.respells_iff`: the different markers that have one fragment.
* `shared_fragments_iff`: the marker sets whose pairs share a fragment.
-/

namespace Retag

open Regex Reader

/-! ## Plain texts -/

theorem literalToken_injective : Function.Injective literalToken := by
  intro c d hSame
  unfold literalToken at hSame
  split at hSame
  · split at hSame
    · exact Token.escaped.inj hSame
    · cases hSame
  · split at hSame
    · cases hSame
    · exact Token.plain.inj hSame

/-- A plain text is read back from its fragment. -/
theorem escapeLiteral_injective : Function.Injective escapeLiteral := by
  intro a
  induction a with
  | nil =>
      intro b hSame
      have hLength := length_le_escapeLiteral b
      rw [← hSame, escapeLiteral_nil, List.length_nil] at hLength
      exact (List.length_eq_zero_iff.mp (Nat.le_zero.mp hLength)).symm
  | cons c a ih =>
      intro b hSame
      cases b with
      | nil =>
          have hLength := length_le_escapeLiteral (c :: a)
          rw [hSame, escapeLiteral_nil, List.length_nil] at hLength
          exact absurd hLength (by simp)
      | cons d b =>
          rw [escapeLiteral_cons, escapeLiteral_cons] at hSame
          have hFirst := first?_escapeChar c (escapeLiteral a)
          rw [hSame, first?_escapeChar] at hFirst
          obtain rfl : d = c := literalToken_injective (Option.some.inj hFirst)
          rw [ih (List.append_cancel_left hSame)]

/-- What is written for a plain opening marker. -/
def plainOpening (text : Text) : Text := (Marker.literal text).openingFragment.text

/-- A plain text is read back from its opening fragment, too. -/
theorem plainOpening_injective : Function.Injective plainOpening := by
  have hOpening : ∀ text, plainOpening text =
      escapeLiteral text ++ if endsInEquals text then [] else notEquals := by
    intro text
    simp only [plainOpening, Marker.openingFragment, Marker.fragment,
      endsInEquals_escapeLiteral]
    by_cases hEquals : endsInEquals text = true <;> simp [hEquals]
  -- the last character tells whether a look ahead was written
  have hEnd : ∀ text, endsInEquals (plainOpening text) = endsInEquals text := by
    intro text
    rw [hOpening]
    by_cases hEquals : endsInEquals text = true
    · rw [if_pos hEquals, List.append_nil, endsInEquals_escapeLiteral]
    · rw [if_neg hEquals, Bool.eq_false_iff.mpr hEquals]
      simp [endsInEquals, notEquals]
  intro a b hSame
  have hEquals : endsInEquals a = endsInEquals b := by
    rw [← hEnd a, ← hEnd b, hSame]
  rw [hOpening, hOpening, hEquals] at hSame
  exact escapeLiteral_injective (List.append_cancel_right hSame)

/-! ## Other spellings of a marker -/

/-- Markers that are different and of which the same is embedded; `written`
says what is written for a plain text. -/
inductive Marker.Respells (written : Text → Text) : Marker → Marker → Prop
  /-- An expression with other flags. -/
  | flags {source : Text} {f g : Int} (hOther : f ≠ g) :
      Respells written (.expression source f) (.expression source g)
  /-- An expression with other anchors at its ends. -/
  | anchors {a b : Text} {f g : Int} (hOther : a ≠ b)
      (hInside : stripAnchors a = stripAnchors b) :
      Respells written (.expression a f) (.expression b g)
  /-- A plain text for an expression that spells it out. -/
  | plain {text source : Text} {f : Int}
      (hSpelled : written text = stripAnchors source) :
      Respells written (.literal text) (.expression source f)
  /-- An expression that spells out a plain text. -/
  | spelled {text source : Text} {f : Int}
      (hSpelled : stripAnchors source = written text) :
      Respells written (.expression source f) (.literal text)

/-- Different markers have the same fragment exactly if one respells the other. -/
theorem Marker.respells_iff {written : Text → Text}
    (hWritten : Function.Injective written) (fragment : Marker → Text)
    (hLiteral : ∀ text, fragment (.literal text) = written text)
    (hExpression : ∀ source f, fragment (.expression source f) = stripAnchors source)
    {a b : Marker} (hOther : a ≠ b) :
    fragment a = fragment b ↔ Respells written a b := by
  cases a with
  | literal text =>
      cases b with
      | literal other =>
          rw [hLiteral, hLiteral]
          constructor
          · intro hSame
            exact absurd (congrArg Marker.literal (hWritten hSame)) hOther
          · intro hRespells
            cases hRespells
      | expression source f =>
          rw [hLiteral, hExpression]
          constructor
          · exact .plain
          · intro hRespells
            cases hRespells with
            | plain hSpelled => exact hSpelled
  | expression source f =>
      cases b with
      | literal text =>
          rw [hLiteral, hExpression]
          constructor
          · exact .spelled
          · intro hRespells
            cases hRespells with
            | spelled hSpelled => exact hSpelled
      | expression other g =>
          rw [hExpression, hExpression]
          constructor
          · intro hSame
            by_cases hSource : source = other
            · subst hSource
              exact .flags fun hFlags => hOther (congrArg _ hFlags)
            · exact .anchors hSource hSame
          · intro hRespells
            cases hRespells with
            | flags hFlags => rfl
            | anchors hSource hInside => exact hInside

/-! ## Marker sets -/

/-- The markers of a set with two pairs are different. -/
theorem MarkerSet.apart_of_make {opening closing openSafe closeSafe : Marker}
    {set : MarkerSet}
    (hMade : make opening closing (some openSafe) (some closeSafe) = .ok set) :
    openSafe ≠ opening ∧ closeSafe ≠ closing := by
  simp only [make, double] at hMade
  split at hMade
  · cases hMade
  · rename_i hOpening
    split at hMade
    · cases hMade
    · rename_i hClosing
      exact ⟨hOpening, hClosing⟩

/-- The fragments of the two pairs of a marker set, whatever kinds of markers
it is made of.  The opening fragments are the same exactly if the one opening
marker respells the other, by other flags, by other anchors, or as an
expression for a plain text, and the closing fragments likewise.  So markers
that are both plain are always searched for apart. -/
theorem shared_fragments_iff {opening closing openSafe closeSafe : Marker}
    {set : MarkerSet}
    (hMade : MarkerSet.make opening closing (some openSafe) (some closeSafe) =
      .ok set) :
    (openSafe.openingFragment.text = opening.openingFragment.text ↔
      openSafe.Respells plainOpening opening) ∧
    (closeSafe.fragment.text = closing.fragment.text ↔
      closeSafe.Respells escapeLiteral closing) := by
  obtain ⟨hOpening, hClosing⟩ := MarkerSet.apart_of_make hMade
  constructor
  · exact Marker.respells_iff plainOpening_injective (fun m => m.openingFragment.text)
      (fun _ => rfl) (fun _ _ => rfl) hOpening
  · exact Marker.respells_iff escapeLiteral_injective (fun m => m.fragment.text)
      (fun _ => rfl) (fun _ _ => rfl) hClosing

/-- An opening marker with an anchor and other flags, and a closing marker that
spells out a plain one. -/
theorem shared_fragments_iff_percent :
    let opening : Marker := .expression "<%".toList 32
    let openSafe : Marker := .expression "^<%".toList 34
    let closing : Marker := .literal "%)".toList
    let closeSafe : Marker := .expression "%\\)".toList 32
    ∃ set, MarkerSet.make opening closing (some openSafe) (some closeSafe) =
      .ok set ∧
      openSafe.openingFragment.text = opening.openingFragment.text ∧
      closeSafe.fragment.text = closing.fragment.text := by
  intro opening openSafe closing closeSafe
  let set : MarkerSet :=
    ⟨⟨opening, closing⟩, some ⟨openSafe, closeSafe⟩, by decide⟩
  have hMade : MarkerSet.make opening closing (some openSafe) (some closeSafe) =
      .ok set := rfl
  obtain ⟨hOpening, hClosing⟩ := shared_fragments_iff hMade
  exact ⟨set, hMade, hOpening.mpr (.anchors (by decide) (by decide)),
    hClosing.mpr (.spelled (by decide))⟩

/-- A set with two pairs is accepted although the opening markers of both are
searched for by the same text. -/
theorem anchored_markers_share_a_fragment :
    ¬ ∀ (opening closing openSafe closeSafe : Marker) (set : MarkerSet),
      MarkerSet.make opening closing (some openSafe) (some closeSafe) = .ok set →
        openSafe.openingFragment.text ≠ opening.openingFragment.text ∧
          closeSafe.fragment.text ≠ closing.fragment.text := by
  intro hAll
  let opening : Marker := .expression "<%".toList 32
  let openSafe : Marker := .expression "^<%".toList 32
  let closing : Marker := .literal "%>".toList
  let closeSafe : Marker := .literal "%>>".toList
  let set : MarkerSet :=
    ⟨⟨opening, closing⟩, some ⟨openSafe, closeSafe⟩, by decide⟩
  have hSame : openSafe.openingFragment.text = opening.openingFragment.text := by decide
  exact (hAll opening closing openSafe closeSafe set rfl).1 hSame

end Retag

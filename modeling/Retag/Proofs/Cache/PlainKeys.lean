import Retag.Proofs.Tag.Scan

/-!
# Keys of plain markers

A cache keeps matchers under the texts of their expressions, not under the
markers that these were made of.  For plain markers this makes no difference:
the text is put together from both markers, and neither can pass for a part of
the other or of what stands between them.

The argument does not take the text apart again.  A tag with one character is
written with the markers, and the first match in it has the two markers on the
two sides of its group.  So a matcher shows the markers that it was made for,
and a text has only one matcher.

## Main results

* `PlainPair.eq_of_matchesIn`: what a matcher finds tells its markers.
* `plain_markers_have_own_matchers`: keys and matchers of plain markers.
-/

namespace Retag

open Regex Text Log

namespace TagForm

variable (form : TagForm)

/-- The first match in a text is its first tag. -/
theorem head?_matchesIn (text : Text) :
    (form.matcher.matchesIn text).head? =
      (form.nextTag? text).map fun found =>
        form.tagMatch ((Cursor.first text).past found.1.length) found.2.1 := by
  show (form.node.matchesIn text).head? = _
  rw [Node.matchesIn, Node.matchesWithin, search?_node, Cursor.rest_first]
  cases form.nextTag? text <;> rfl

/-- A tag whose content is one character is read back, whatever its markers
are: the content has at least one character, and the closing marker follows. -/
theorem tagAt?_single {x : Char} (hAdmits : x ≠ '=') (after : Text) :
    form.tagAt? (form.tagText [x] ++ after) = some ([x], after) := by
  have hInside : form.admits (x :: (form.closing ++ after)) = true := by
    simp [admits, hAdmits]
  have hPlace : firstPlace (afterMarker? form.closing) (form.closing ++ after) =
      some ([], after) := firstPlace_of_some (afterMarker?_append form.closing after)
  rw [tagText, List.append_assoc, List.append_assoc, tagAt?, afterMarker?_append]
  simp only [List.singleton_append, hInside, if_true, content?, hPlace, Option.map_some]

/-- A match tells how long the parts of its tag are. -/
theorem lengths_of_tagMatch {form other : TagForm} {c d : Cursor} {inner content : Text}
    (hTag : form.opening.length + inner.length + form.closing.length ≤ c.left)
    (hOther : other.opening.length + content.length + other.closing.length ≤ d.left)
    (hSame : form.tagMatch c inner = other.tagMatch d content) :
    c = d ∧ form.opening.length = other.opening.length ∧
    inner.length = content.length ∧
      form.closing.length = other.closing.length := by
  obtain ⟨rfl, hStop, hMarks⟩ := Match.mk.inj hSame
  obtain ⟨hStart, hEnd⟩ := Mark.mk.inj (Prod.mk.inj (List.cons.inj hMarks).1).2
  have hOpening := congrArg Cursor.left hStart
  have hInner := congrArg Cursor.left (Option.some.inj hEnd)
  have hWhole := congrArg Cursor.left hStop
  simp only [Cursor.left_past] at hOpening hInner hWhole
  exact ⟨rfl, by omega⟩

end TagForm

namespace PlainPair

/-- Pairs of plain markers whose matchers find the same are the same. -/
theorem eq_of_matchesIn {p q : PlainPair}
    (hSame : ∀ text, p.form.matcher.matchesIn text = q.form.matcher.matchesIn text) :
    p = q := by
  let text := p.opening ++ ['x'] ++ p.closing
  have hTag : p.form.nextTag? text = some ([], ['x'], []) := by
    have hHere := p.form.tagAt?_single (by decide : 'x' ≠ '=') []
    rw [List.append_nil] at hHere
    exact firstPlace_of_some hHere
  have hFirst := congrArg List.head? (hSame text)
  rw [TagForm.head?_matchesIn, TagForm.head?_matchesIn, hTag, Option.map_some] at hFirst
  obtain ⟨⟨skipped, inner, after⟩, hNext, hMatch⟩ :=
    Option.map_eq_some_iff.mp hFirst.symm
  have hText : text = skipped ++ (q.opening ++ inner ++ q.closing) ++ after :=
    (TagForm.nextTag?_eq_some hNext).1
  have hOwn : text.length = p.opening.length + 1 + p.closing.length := by
    simp only [text, List.length_append, List.length_singleton]
  have hLength : text.length = skipped.length +
      (q.opening.length + inner.length + q.closing.length) + after.length := by
    rw [hText]
    simp only [List.length_append]
  obtain ⟨hStart, hOpening, hInner, hClosing⟩ :
      (Cursor.first text).past skipped.length = (Cursor.first text).past 0 ∧
        q.opening.length = p.opening.length ∧ inner.length = 1 ∧
          q.closing.length = p.closing.length := by
    refine TagForm.lengths_of_tagMatch ?_ ?_ hMatch
    · show q.opening.length + inner.length + q.closing.length ≤
        text.length - skipped.length
      omega
    · show p.opening.length + 1 + p.closing.length ≤ text.length
      omega
  have hSkipped : skipped = [] := List.length_eq_zero_iff.mp (by omega)
  have hAfter : after = [] := List.length_eq_zero_iff.mp (by omega)
  rw [hSkipped, hAfter, List.nil_append, List.append_nil] at hText
  obtain ⟨hFront, hBack⟩ := List.append_inj' hText hClosing.symm
  obtain ⟨hSameOpening, -⟩ := List.append_inj hFront hOpening.symm
  cases p
  cases q
  rw [PlainPair.mk.injEq]
  exact ⟨hSameOpening, hBack⟩

theorem matcher_injective : Function.Injective fun p : PlainPair => p.form.matcher :=
  fun _ _ hSame => eq_of_matchesIn fun text => congrArg (Regex.matchesIn · text) hSame

/-- The text of an expression tells the plain markers that it is made of. -/
theorem source_injective :
    Function.Injective fun p : PlainPair => p.markers.source := by
  intro p q hSame
  have hMatchers : Except.ok p.form.matcher = .ok q.form.matcher :=
    p.matcherOf_markers.symm.trans
      ((congrArg matcherOf hSame).trans q.matcherOf_markers)
  exact matcher_injective (Except.ok.inj hMatchers)

end PlainPair

/-- The text of the expression of two plain markers, empty ones included,
identifies them.  So caches, whatever they were asked before, answer for
different pairs with different matchers: such as are made from different texts,
and do not even find the same. -/
theorem plain_markers_have_own_matchers (p q : PlainPair) :
    (p.markers.source = q.markers.source ↔
      p.opening = q.opening ∧ p.closing = q.closing) ∧
    ∀ (first second : List Text) (j k : Journal), ∃ m n,
      ((MatcherCache.asked first).get p.markers.source j).1 = .ok m ∧
      ((MatcherCache.asked second).get q.markers.source k).1 = .ok n ∧
      (m = n ↔ p = q) ∧
      ((∀ text, m.matchesIn text = n.matchesIn text) ↔ p = q) := by
  constructor
  · constructor
    · intro hSame
      rw [PlainPair.source_injective hSame]
      exact ⟨rfl, rfl⟩
    · rintro ⟨hOpening, hClosing⟩
      rw [PlainPair.markers, PlainPair.markers, hOpening, hClosing]
  · intro first second j k
    have hAnswer : ∀ requests (pair : PlainPair) l,
        ((MatcherCache.asked requests).get pair.markers.source l).1 =
          .ok pair.form.matcher := by
      intro requests pair l
      rw [(MatcherCache.get_of_sound (MatcherCache.sound_asked requests) _ l).1,
        pair.matcherOf_markers]
    refine ⟨_, _, hAnswer first p j, hAnswer second q k,
      PlainPair.matcher_injective.eq_iff, ?_⟩
    exact ⟨PlainPair.eq_of_matchesIn, fun hSame text => by rw [hSame]⟩

end Retag

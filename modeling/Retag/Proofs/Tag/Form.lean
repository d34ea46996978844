import Retag.Segment
import Retag.Proofs.Text.FirstPlace

/-!
# Tags between plain markers, read off the text

A marker pair of two plain texts needs no expression to be found: this
module reads the tags of such a pair directly.  A tag begins where the
opening marker stands, its content has at least one character, and it ends
at the first place after that character where the closing marker stands.
A marker that begins no tag is text.

Everything is defined on the rest of the text, so the scan is a recursion
on it and never mentions a position.

## Main definitions

* `TagForm.tagAt?`: the tag at the start of a text.
* `TagForm.segments`: the segments of a text.
* `TagForm.twoTier`: the segments of a text with two pairs of markers.

## Main results

* `TagForm.tagAt?_eq_some`: a tag is its markers around its content.
-/

namespace Retag

/-! ## Tags of one form -/

/-- The written form of tags between two plain markers. -/
structure TagForm where
  opening : Text
  closing : Text
  /-- Whether no equals sign may follow the opening marker. -/
  refusesEquals : Bool
  deriving DecidableEq, Repr

namespace TagForm

/-- The form of tags between two plain markers: an opening marker that ends
in an equals sign may be followed by another one. -/
def plain (opening closing : Text) : TagForm :=
  ⟨opening, closing, !endsInEquals opening⟩

/-- The form of the engine's own tags. -/
def native : TagForm := ⟨MarkerSet.nativeOpening, MarkerSet.nativeClosing, false⟩

variable (form : TagForm)

/-- The content at the start of a text, and what stands behind the closing
marker that ends it.  The first character always belongs to the content. -/
def content? : Text → Option (Text × Text)
  | [] => none
  | x :: rest =>
    (firstPlace (afterMarker? form.closing) rest).map fun place =>
      (x :: place.1, place.2)

/-- Whether a tag's opening marker may be followed by this text. -/
def admits (inside : Text) : Bool := !(form.refusesEquals && inside.head? == some '=')

/-- The tag at the start of a text: its content, and what stands behind it. -/
def tagAt? (text : Text) : Option (Text × Text) :=
  match afterMarker? form.opening text with
  | some inside => if form.admits inside then form.content? inside else none
  | none => none

/-- The first tag of a text: the text before it, its content, and what
stands behind it. -/
def nextTag? : Text → Option (Text × Text × Text) := firstPlace form.tagAt?

/-- The text of a tag with some content. -/
def tagText (inner : Text) : Text := form.opening ++ inner ++ form.closing

/-- A content and its closing marker are the text up to what stands behind. -/
theorem content?_eq_some {form : TagForm} {inside inner after : Text}
    (hContent : form.content? inside = some (inner, after)) :
    inside = inner ++ form.closing ++ after ∧ inner ≠ [] := by
  cases inside with
  | nil => cases hContent
  | cons x rest =>
      obtain ⟨⟨skipped, behind⟩, hPlace, hEq⟩ :=
        Option.map_eq_some_iff.mp hContent
      obtain ⟨rfl, rfl⟩ := Prod.mk.inj hEq
      obtain ⟨tail, rfl, hMarker, -⟩ := firstPlace_eq_some.mp hPlace
      rw [afterMarker?_eq_some.mp hMarker]
      exact ⟨by simp, by simp⟩

theorem tagAt?_eq_some {form : TagForm} {text inner after : Text}
    (hTag : form.tagAt? text = some (inner, after)) :
    text = form.tagText inner ++ after ∧ inner ≠ [] := by
  unfold tagAt? at hTag
  cases hOpening : afterMarker? form.opening text with
  | none => simp [hOpening] at hTag
  | some inside =>
      simp only [hOpening] at hTag
      split at hTag
      · obtain ⟨hInside, hInner⟩ := content?_eq_some hTag
        refine ⟨?_, hInner⟩
        rw [afterMarker?_eq_some.mp hOpening, hInside]
        simp [tagText]
      · cases hTag

theorem nextTag?_eq_some {form : TagForm} {text skipped inner after : Text}
    (hNext : form.nextTag? text = some (skipped, inner, after)) :
    text = skipped ++ form.tagText inner ++ after ∧ inner ≠ [] := by
  obtain ⟨rest, rfl, hTag, -⟩ := firstPlace_eq_some.mp hNext
  obtain ⟨hRest, hInner⟩ := tagAt?_eq_some hTag
  exact ⟨by rw [hRest, List.append_assoc], hInner⟩

theorem length_after_lt {form : TagForm} {text skipped inner after : Text}
    (hNext : form.nextTag? text = some (skipped, inner, after)) :
    after.length < text.length := by
  obtain ⟨hText, hInner⟩ := nextTag?_eq_some hNext
  have hPos := List.length_pos_iff.mpr hInner
  simp only [hText, tagText, List.length_append]
  omega

/-- The segments of a text that follows a tag. -/
def segmentsBehind (variant : Variant) (text : Text) : List Segment :=
  match _hNext : form.nextTag? text with
  | none => literalUnlessEmpty text
  | some (skipped, inner, after) =>
    literalUnlessEmpty skipped ++ .tag (some inner) variant ::
      segmentsBehind variant after
termination_by text.length
decreasing_by exact length_after_lt _hNext

/-- The segments of a text.  A text without a tag is one literal segment,
even when it is empty. -/
def segments (variant : Variant) (text : Text) : List Segment :=
  match form.nextTag? text with
  | none => [.literal text]
  | some _ => form.segmentsBehind variant text

theorem segmentsBehind_of_none {form : TagForm} {variant : Variant} {text : Text}
    (hNext : form.nextTag? text = none) :
    form.segmentsBehind variant text = literalUnlessEmpty text := by
  rw [segmentsBehind]
  split
  · rfl
  · rename_i hSome
    rw [hNext] at hSome
    cases hSome

theorem segmentsBehind_of_some {form : TagForm} {variant : Variant}
    {text skipped inner after : Text}
    (hNext : form.nextTag? text = some (skipped, inner, after)) :
    form.segmentsBehind variant text =
      literalUnlessEmpty skipped ++
        .tag (some inner) variant :: form.segmentsBehind variant after := by
  rw [segmentsBehind]
  split
  · rename_i hNone
    rw [hNext] at hNone
    cases hNone
  · rename_i hSome
    rw [hNext] at hSome
    obtain ⟨rfl, rfl, rfl⟩ := by simpa using hSome
    rfl

/-- The segments of a text with two forms of tags: the safe form is read
first, and the escaped form in every literal piece by itself. -/
def twoTier (safe escaped : TagForm) (text : Text) : List Segment :=
  (safe.segments .safe text).flatMap fun
    | .literal piece => escaped.segments .escaped piece
    | .tag inner variant => [.tag inner variant]

end TagForm

end Retag

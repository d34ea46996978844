import Retag.Proofs.Computation
import Retag.Proofs.Tag.Appending

/-!
# Escaping native tags

Escaping scans a text for native tags and writes it again with a backslash
before each of them.  The escaped text has the same tags: no tag begins earlier
than before, because a backslash is no part of an opening marker and what stood
before the tag had no opening marker in it, and a tag that begins where it did
ends where it did.  So all that escaping does is to put one character in front
of each tag.

To say this, a text is laid out as its tags with what stands before each of
them.  A mark in front of every tag is a change of the layout, and escaping is
that change: the layout of a marked text is the marked layout of the text.  It
can be undone and repeated.

## Main results

* `TagForm.nextTag?_marked`: the first tag of a text with a mark put in front
  of it.
* `TagForm.layout_marked`: the layout of a text whose tags are marked.
* `escaping_marks_native_tags`: what escaping does, any number of times.
-/

namespace Retag

open Segment

/-! ## Layouts -/

/-- A text with its tags. -/
inductive Layout where
  /-- A text without a tag. -/
  | plain (text : Text)
  /-- What stands before the first tag, the content of the tag, and what stands
  behind it. -/
  | tag (skipped inner : Text) (behind : Layout)

namespace Layout

/-- The text that is laid out. -/
def text (form : TagForm) : Layout → Text
  | plain text => text
  | tag skipped inner behind => skipped ++ (form.tagText inner ++ behind.text form)

/-- The contents of the tags. -/
def contents : Layout → List Text
  | plain _ => []
  | tag _ inner behind => inner :: behind.contents

/-- The layout with a mark in front of every tag. -/
def marked (mark : Text) : Layout → Layout
  | plain text => plain text
  | tag skipped inner behind => tag (skipped ++ mark) inner (behind.marked mark)

/-- The segments of a text that follows a tag. -/
def segmentsBehind (variant : Variant) : Layout → List Segment
  | plain text => literalUnlessEmpty text
  | tag skipped inner behind =>
    literalUnlessEmpty skipped ++ .tag (some inner) variant ::
      behind.segmentsBehind variant

/-- The segments of the text. -/
def segments (variant : Variant) : Layout → List Segment
  | plain text => [.literal text]
  | tag skipped inner behind => (tag skipped inner behind).segmentsBehind variant

@[simp] theorem contents_marked (mark : Text) (l : Layout) :
    (l.marked mark).contents = l.contents := by
  induction l with
  | plain text => rfl
  | tag skipped inner behind ih => exact congrArg (inner :: ·) ih

@[simp] theorem marked_nil (l : Layout) : l.marked [] = l := by
  induction l with
  | plain text => rfl
  | tag skipped inner behind ih => rw [marked, ih, List.append_nil]

@[simp] theorem marked_marked (first second : Text) (l : Layout) :
    (l.marked first).marked second = l.marked (first ++ second) := by
  induction l with
  | plain text => rfl
  | tag skipped inner behind ih => rw [marked, marked, marked, ih, List.append_assoc]

/-- Marks can be taken away again. -/
theorem marked_injective {mark : Text} {l m : Layout}
    (hSame : l.marked mark = m.marked mark) :
    l = m := by
  induction l generalizing m with
  | plain text =>
      cases m with
      | plain other => exact hSame
      | tag skipped inner behind => cases hSame
  | tag skipped inner behind ih =>
      cases m with
      | plain other => cases hSame
      | tag skipped' inner' behind' =>
          obtain ⟨hSkipped, rfl, hBehind⟩ := Layout.tag.inj hSame
          rw [List.append_cancel_right hSkipped, ih hBehind]

end Layout

namespace TagForm

variable (form : TagForm)

/-- The layout of a text. -/
def layout (text : Text) : Layout :=
  match _hNext : form.nextTag? text with
  | none => .plain text
  | some (skipped, inner, after) => .tag skipped inner (layout after)
termination_by text.length
decreasing_by exact length_after_lt _hNext

variable {form : TagForm}

theorem layout_of_none {text : Text} (hNext : form.nextTag? text = none) :
    form.layout text = .plain text := by
  rw [layout]
  split
  · rfl
  · rename_i hSome
    rw [hNext] at hSome
    cases hSome

theorem layout_of_some {text skipped inner after : Text}
    (hNext : form.nextTag? text = some (skipped, inner, after)) :
    form.layout text = .tag skipped inner (form.layout after) := by
  rw [layout]
  split
  · rename_i hNone
    rw [hNext] at hNone
    cases hNone
  · rename_i hSome
    rw [hNext] at hSome
    obtain ⟨rfl, rfl, rfl⟩ := by simpa using hSome
    rfl

/-- A layout loses nothing of its text. -/
theorem text_layout (text : Text) : (form.layout text).text form = text := by
  fun_induction form.layout text with
  | case1 text hNext => rfl
  | case2 text skipped inner after hNext ih =>
      rw [Layout.text, ih, (nextTag?_eq_some hNext).1, List.append_assoc]

/-- The segments of a text are those of its layout. -/
theorem segmentsBehind_layout (variant : Variant) (text : Text) :
    form.segmentsBehind variant text = (form.layout text).segmentsBehind variant := by
  fun_induction form.layout text with
  | case1 text hNext => exact segmentsBehind_of_none hNext
  | case2 text skipped inner after hNext ih =>
      rw [segmentsBehind_of_some hNext, ih]
      rfl

theorem segments_layout (variant : Variant) (text : Text) :
    form.segments variant text = (form.layout text).segments variant := by
  have hBehind := @segmentsBehind_layout form variant text
  unfold segments
  cases hNext : form.nextTag? text with
  | none =>
      rw [layout_of_none hNext]
      rfl
  | some found =>
      rw [layout_of_some hNext] at hBehind ⊢
      exact hBehind

/-! ## Marks -/

/-- A mark that can be put in front of tags of a form. -/
structure Marks (form : TagForm) (mark : Text) : Prop where
  opening_ne : form.opening ≠ []
  /-- Otherwise a mark could let a tag begin that was refused before. -/
  admits_all : form.refusesEquals = false
  not_opening : ∀ x ∈ form.opening, x ∉ mark

/-- The first tag of a text is the first one with a mark in front of it. -/
theorem nextTag?_marked {text skipped inner after mark : Text} (hMark : form.Marks mark)
    (hNext : form.nextTag? text = some (skipped, inner, after)) (rest : Text) :
    form.nextTag? ((skipped ++ mark) ++ (form.tagText inner ++ rest)) =
      some (skipped ++ mark, inner, rest) := by
  by_cases hNone : mark = []
  · rw [hNone, List.append_nil]
    exact nextTag?_replace hNext rest
  · obtain ⟨tail, hText, hTag, hEarlier⟩ := firstPlace_eq_some.mp hNext
    have hTail := (tagAt?_eq_some hTag).1
    apply firstPlace_eq_some.mpr
    refine ⟨form.tagText inner ++ rest, rfl, tagAt?_replace hTag rest, ?_⟩
    intro i hi
    by_contra hSome
    obtain ⟨content, back, hDrop, hContent, -⟩ :=
      isSome_tagAt?.mp (Option.isSome_iff_ne_none.mpr hSome)
    have hSplit : skipped ++ (mark ++ (form.tagText inner ++ rest)) =
        ((skipped ++ mark) ++ (form.tagText inner ++ rest)).take i ++
          (form.opening ++ (content ++ (form.closing ++ back))) := by
      rw [← hDrop, List.take_append_drop, List.append_assoc]
    rcases marker_in_piece hMark.opening_ne hNone hMark.not_opening hSplit with
      ⟨behind, hSkipped, -⟩ | ⟨before, -, hFront⟩
    -- an opening marker in what stood before the tag would have begun a tag there
    · generalize List.take i _ = front at hSkipped
      have hPlace : front.length < skipped.length := by
        have hPos := List.length_pos_iff.mpr hMark.opening_ne
        have hLength := congrArg List.length hSkipped
        simp only [List.length_append] at hLength
        omega
      have hOld : (form.tagAt? (text.drop front.length)).isSome = true := by
        apply isSome_tagAt?.mpr
        refine ⟨behind ++ (form.opening ++ inner), after, ?_, ?_, ?_⟩
        · rw [hText, hTail, hSkipped, List.append_assoc, List.drop_left]
          simp only [tagText, List.append_assoc]
        · simp [hMark.opening_ne]
        · rw [admits, hMark.admits_all]
          rfl
      rw [hEarlier front.length hPlace] at hOld
      cases hOld
    · have hLength := congrArg List.length hFront
      simp only [List.length_append, List.length_take] at hLength hi
      omega

/-- The layout of a text whose tags are marked is the layout of the text with
the marks. -/
theorem layout_marked {mark : Text} (hMark : form.Marks mark) (text : Text) :
    form.layout (((form.layout text).marked mark).text form) =
      (form.layout text).marked mark := by
  fun_induction form.layout text with
  | case1 text hNext => exact layout_of_none hNext
  | case2 text skipped inner after hNext ih =>
      rw [Layout.marked, Layout.text, layout_of_some (nextTag?_marked hMark hNext _),
        ih]

/-! ## Native tags -/

theorem marks_backslashes (n : Nat) : native.Marks (List.replicate n '\\') := by
  refine ⟨by simp [native, MarkerSet.nativeOpening], rfl, ?_⟩
  intro x hMem hMark
  have hBrace : x = '{' := by simpa [native, MarkerSet.nativeOpening] using hMem
  rw [hBrace] at hMark
  have hSame := List.eq_of_mem_replicate hMark
  cases hSame

theorem writeAll_literalUnlessEmpty {mark written : Text} {rest : List Segment}
    (hRest : writeAll id mark rest = .ok written) (text : Text) :
    writeAll id mark (literalUnlessEmpty text ++ rest) = .ok (text ++ written) := by
  cases text with
  | nil => exact hRest
  | cons x text =>
      show writeAll id mark (.literal (x :: text) :: rest) = _
      rw [writeAll, hRest]
      rfl

/-- Native tags are written with the mark in front of them. -/
theorem writeAll_segmentsBehind (mark : Text) (l : Layout) :
    writeAll id mark (l.segmentsBehind .escaped) =
      .ok ((l.marked mark).text native) := by
  induction l with
  | plain text =>
      have hWritten := @writeAll_literalUnlessEmpty mark [] [] rfl text
      rw [List.append_nil, List.append_nil] at hWritten
      exact hWritten
  | tag skipped inner behind ih =>
      have hTag :
          writeAll id mark (.tag (some inner) .escaped ::
            behind.segmentsBehind .escaped) =
          .ok ((mark ++ tagText native inner) ++ (behind.marked mark).text native) := by
        rw [writeAll, ih]
        rfl
      rw [Layout.segmentsBehind, writeAll_literalUnlessEmpty hTag, Layout.marked,
        Layout.text]
      simp only [List.append_assoc]

theorem writeAll_segments (mark : Text) (l : Layout) :
    writeAll id mark (l.segments .escaped) = .ok ((l.marked mark).text native) := by
  cases l with
  | plain text =>
      show Except.ok (text ++ []) = _
      rw [List.append_nil]
      rfl
  | tag skipped inner behind => exact writeAll_segmentsBehind mark _

theorem matcherOf_nativeTagSource : matcherOf nativeTagSource = .ok native.matcher :=
  native.matcherOf_source

end TagForm

/-! ## Escaping -/

/-- The text with its native tags escaped. -/
def escape (text : Text) : Except Failure Text := rewriteBy nativeTagSource true text

/-- The text escaped so many times. -/
def escapeTimes : Nat → Text → Except Failure Text
  | 0, text => .ok text
  | n + 1, text => escapeTimes n text >>= escape

/-- The contents of the tags of some segments. -/
def tagContents (segments : List Segment) : List (Option Text) :=
  segments.filterMap fun
    | .literal _ => none
    | .tag inner _ => some inner

namespace TagForm

theorem tagContents_literalUnlessEmpty_append (text : Text) (rest : List Segment) :
    tagContents (literalUnlessEmpty text ++ rest) = tagContents rest := by
  cases text <;> rfl

theorem tagContents_segmentsBehind (variant : Variant) (l : Layout) :
    tagContents (l.segmentsBehind variant) = l.contents.map some := by
  induction l with
  | plain text =>
      have hNone := tagContents_literalUnlessEmpty_append text []
      rwa [List.append_nil] at hNone
  | tag skipped inner behind ih =>
      rw [Layout.segmentsBehind, tagContents_literalUnlessEmpty_append]
      exact congrArg (some inner :: ·) ih

theorem tagContents_segments (variant : Variant) (l : Layout) :
    tagContents (l.segments variant) = l.contents.map some := by
  cases l with
  | plain text => rfl
  | tag skipped inner behind => exact tagContents_segmentsBehind variant _

theorem escape_eq (text : Text) :
    escape text = .ok (((native.layout text).marked escapeMark).text native) := by
  unfold escape rewriteBy
  rw [matcherOf_nativeTagSource]
  show rewrite native.matcher true text = _
  unfold rewrite
  rw [scan_matcher, segments_layout]
  show orFail .ofWrite
    (writeAll id escapeMark ((native.layout text).segments .escaped)) = _
  rw [writeAll_segments]
  rfl

/-- Escaping once more puts one more backslash in front of every tag. -/
theorem escapeTimes_eq (n : Nat) (text : Text) :
    escapeTimes n text =
      .ok (((native.layout text).marked (List.replicate n '\\')).text native) := by
  induction n with
  | zero =>
      show Except.ok text = _
      rw [List.replicate_zero, Layout.marked_nil, text_layout]
  | succ n ih =>
      rw [escapeTimes, ih, ok_bind, escape_eq, layout_marked (marks_backslashes n),
        Layout.marked_marked, List.replicate_succ', escapeMark]

/-- Escaping keeps texts apart. -/
theorem escape_injective {a b : Text} (hSame : escape a = escape b) : a = b := by
  have hMark : native.Marks escapeMark := marks_backslashes 1
  rw [escape_eq, escape_eq] at hSame
  have hLayouts := congrArg native.layout (Except.ok.inj hSame)
  rw [layout_marked hMark, layout_marked hMark] at hLayouts
  have hText := congrArg (Layout.text native) (Layout.marked_injective hLayouts)
  rwa [text_layout, text_layout] at hText

end TagForm

/-- Escaping a text so many times puts so many backslashes in front of every
native tag and changes nothing else: the text is laid out as its tags with what
stands before each of them, and the escaped text is laid out as the same tags,
with the backslashes at the end of what stands before each of them.  So the
scan finds the same contents in the same order, and without the backslashes
the text is as it was. -/
theorem escaping_marks_native_tags :
    ∃ native, matcherOf nativeTagSource = .ok native ∧
      (∀ requests j,
        ((MatcherCache.asked requests).get nativeTagSource j).1 = .ok native) ∧
      (∀ text, ∃ layout : Layout, layout.text .native = text ∧
        scan native .escaped text = .ok (layout.segments .escaped) ∧
        tagContents (layout.segments .escaped) = layout.contents.map some ∧
        ∀ n,
          let marked := layout.marked (List.replicate n '\\')
          escapeTimes n text = .ok (marked.text .native) ∧
            scan native .escaped (marked.text .native) =
              .ok (marked.segments .escaped) ∧
            tagContents (marked.segments .escaped) =
              tagContents (layout.segments .escaped)) ∧
      ∀ a b, escape a = escape b → a = b := by
  refine ⟨_, TagForm.matcherOf_nativeTagSource, ?_, ?_,
    fun a b => TagForm.escape_injective⟩
  · intro requests j
    rw [(MatcherCache.get_of_sound (MatcherCache.sound_asked requests) _ j).1,
      TagForm.matcherOf_nativeTagSource]
  · intro text
    refine ⟨TagForm.native.layout text, TagForm.text_layout text, ?_,
      TagForm.tagContents_segments _ _, ?_⟩
    · rw [TagForm.scan_matcher, TagForm.segments_layout]
    · intro n
      refine ⟨TagForm.escapeTimes_eq n text, ?_, ?_⟩
      · rw [TagForm.scan_matcher, TagForm.segments_layout,
          TagForm.layout_marked (TagForm.marks_backslashes n)]
      · rw [TagForm.tagContents_segments, TagForm.tagContents_segments,
          Layout.contents_marked]

end Retag

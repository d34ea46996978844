import Retag.Proofs.Regex.Reading

/-!
# Anchors and backslashes

A dollar sign at the end of an expression is an anchor unless a backslash
escapes it.  Whether one does is a matter of reading: from left to right every
backslash takes the character behind it along, so the second of two backslashes
escapes nothing.  `tokensOf` reads an expression like this.

The fragment of an expression is made without reading it.  The backslashes
before the dollar sign are counted, and an even number of them escape each
other.  Both agree because a token never changes whether the number is even: a
backslash with the character that it takes along adds two backslashes to the
run at the end or none, and any other character adds none.

Nothing is stripped from an escaped plain text, so an expression that spells out
a plain marker has the marker's fragment.

## Main results

* `getLast?_tokensOf_dollar`: a dollar sign is a token of its own behind an even
  number of backslashes.
* `anchors_respect_escapes`: the fragments of all expressions.
-/

namespace Retag

open Regex Reader

/-! ## Reading from left to right -/

/-- The tokens of a text: every backslash takes the character behind it along. -/
def tokensOf : Text → List Token
  | [] => []
  | '\\' :: c :: rest => .escaped c :: tokensOf rest
  | c :: rest => .plain c :: tokensOf rest

/-- The tokens are those that the reader of expressions comes to. -/
theorem tokensOf_of_first? {text : Text} {t : Token}
    (hFirst : Token.first? text = some t) :
    tokensOf text = t :: tokensOf (text.drop t.size) := by
  unfold Token.first? at hFirst
  split at hFirst
  · cases hFirst
  · cases hFirst
    rfl
  · rename_i c rest hPlain
    cases hFirst
    rw [tokensOf]
    · rfl
    · exact hPlain

theorem flatMap_text_tokensOf (text : Text) :
    (tokensOf text).flatMap Token.text = text := by
  fun_induction tokensOf text with
  | case1 => rfl
  | case2 c rest ih => rw [List.flatMap_cons, ih]; rfl
  | case3 c rest hPlain ih => rw [List.flatMap_cons, ih]; rfl

theorem tokensOf_append_ne_nil (text : Text) (c : Char) :
    tokensOf (text ++ [c]) ≠ [] := by
  intro hNone
  have hText := flatMap_text_tokensOf (text ++ [c])
  rw [hNone] at hText
  exact absurd hText.symm (by simp)

theorem tokensOf_write (rule : BackslashRule) (text : Text) :
    tokensOf (rule.write text) = text.map rule.token := by
  induction text with
  | nil => rfl
  | cons c text ih =>
      have hSize : (rule.token c).size = (rule.writeChar c).length := by
        rw [Token.size, rule.text_token]
      rw [rule.write_cons, tokensOf_of_first? (rule.first?_writeChar c _), hSize,
        List.drop_left, ih, List.map_cons]

/-! ## Counting backslashes -/

/-- A character in front of a text adds to the run of backslashes at its end if
it is a backslash and so are all the others. -/
theorem trailingBackslashes_cons (c : Char) (text : Text) :
    trailingBackslashes (c :: text) =
      if trailingBackslashes text = text.length then
        text.length + if c = '\\' then 1 else 0
      else trailingBackslashes text := by
  unfold trailingBackslashes
  rw [List.reverse_cons, List.takeWhile_append, List.length_reverse]
  split
  · rw [List.length_append, List.length_reverse]
    by_cases hSlash : c = '\\' <;> simp [hSlash]
  · rfl

/-- A backslash and the character that it takes along do not change whether the
run at the end is even. -/
theorem trailingBackslashes_escaped (c : Char) (text : Text) :
    trailingBackslashes ('\\' :: c :: text) % 2 = trailingBackslashes text % 2 := by
  have hInner := trailingBackslashes_cons c text
  have hOuter := trailingBackslashes_cons '\\' (c :: text)
  rw [List.length_cons, if_pos rfl] at hOuter
  by_cases hAll : trailingBackslashes text = text.length
  · rw [if_pos hAll] at hInner
    by_cases hSlash : c = '\\'
    · rw [if_pos hSlash] at hInner
      rw [if_pos hInner] at hOuter
      omega
    · rw [if_neg hSlash] at hInner
      rw [if_neg (by omega)] at hOuter
      omega
  · rw [if_neg hAll] at hInner
    have hFewer : trailingBackslashes text ≤ text.length := by
      have hTake := (List.takeWhile_prefix (l := text.reverse) (· == '\\')).length_le
      rw [List.length_reverse] at hTake
      exact hTake
    rw [if_neg (by omega)] at hOuter
    omega

theorem trailingBackslashes_plain {c : Char} (hPlain : c ≠ '\\') (text : Text) :
    trailingBackslashes (c :: text) = trailingBackslashes text := by
  rw [trailingBackslashes_cons, if_neg hPlain]
  split
  · rename_i hAll
    exact hAll.symm
  · rfl

/-- A dollar sign at the end is a token of its own exactly if an even number of
backslashes stands before it. -/
theorem getLast?_tokensOf_dollar (text : Text) :
    (tokensOf (text ++ ['$'])).getLast? = some (.plain '$') ↔
      trailingBackslashes text % 2 = 0 := by
  have hBehind : ∀ t rest, (t :: tokensOf (rest ++ ['$'])).getLast? =
      (tokensOf (rest ++ ['$'])).getLast? := fun t rest =>
    List.getLast?_cons_of_ne_nil (tokensOf_append_ne_nil rest '$')
  fun_induction tokensOf text with
  | case1 => exact iff_of_true rfl rfl
  | case2 c rest ih =>
      have hTokens : (tokensOf ('\\' :: c :: rest ++ ['$'])).getLast? =
          (tokensOf (rest ++ ['$'])).getLast? := hBehind (.escaped c) rest
      rw [hTokens, trailingBackslashes_escaped]
      exact ih
  | case3 c rest hPlain ih =>
      by_cases hSlash : c = '\\'
      · -- a lone backslash, which takes the dollar sign along
        subst hSlash
        cases rest with
        | nil => exact iff_of_false (by decide) (by decide)
        | cons d rest => exact (hPlain d rest rfl rfl).elim
      · have hTokens : tokensOf (c :: (rest ++ ['$'])) =
            .plain c :: tokensOf (rest ++ ['$']) := by
          rw [tokensOf]
          exact fun d more hSame => absurd hSame hSlash
        rw [trailingBackslashes_plain hSlash, List.cons_append, hTokens, hBehind]
        exact ih

/-! ## Fragments -/

/-- The last character of a token that is a plain dollar sign. -/
theorem getLast?_of_getLast?_tokensOf {text : Text} {c : Char}
    (hLast : (tokensOf text).getLast? = some (.plain c)) : text.getLast? = some c := by
  obtain ⟨front, hTokens⟩ := List.getLast?_eq_some_iff.mp hLast
  have hText := flatMap_text_tokensOf text
  rw [hTokens, List.flatMap_append] at hText
  rw [← hText]
  simp [Token.text]

theorem dropDollar_eq (text : Text) :
    dropDollar text =
      if (tokensOf text).getLast? = some (.plain '$') then text.dropLast else text := by
  rcases List.eq_nil_or_concat text with rfl | ⟨front, x, rfl⟩
  · rfl
  · rw [List.concat_eq_append]
    by_cases hDollar : x = '$'
    · subst hDollar
      have hReverse : (front ++ ['$']).reverse = '$' :: front.reverse := by simp
      simp only [dropDollar, hReverse, List.reverse_reverse, beq_iff_eq,
        getLast?_tokensOf_dollar, List.dropLast_concat]
    · have hLast : (tokensOf (front ++ [x])).getLast? ≠ some (.plain '$') := by
        intro hSome
        have hChar := getLast?_of_getLast?_tokensOf hSome
        rw [List.getLast?_concat] at hChar
        exact hDollar (Option.some.inj hChar)
      have hReverse : (front ++ [x]).reverse = x :: front.reverse := by simp
      rw [if_neg hLast]
      unfold dropDollar
      rw [hReverse]
      split
      · rename_i hSame
        exact absurd (List.cons.inj hSame).1 hDollar
      · rfl

theorem dropCaret_eq (text : Text) :
    dropCaret text = if text.head? = some '^' then text.tail else text := by
  unfold dropCaret
  split
  · rfl
  · rename_i hOther
    refine (if_neg fun hHead => ?_).symm
    obtain ⟨rest, hText⟩ := List.head?_eq_some_iff.mp hHead
    exact hOther rest hText

theorem stripAnchors_escapeLiteral (text : Text) :
    stripAnchors (escapeLiteral text) = escapeLiteral text := by
  have hCaret : (escapeLiteral text).head? ≠ some '^' := by
    intro hHead
    obtain ⟨rest, hText⟩ := List.head?_eq_some_iff.mp hHead
    cases text with
    | nil => cases hText
    | cons c text =>
        have hFirst := first?_escapeChar c (escapeLiteral text)
        rw [← escapeLiteral_cons, hText] at hFirst
        exact metaRule.token_ne_of_meta rfl c (Option.some.inj hFirst).symm
  have hDollar : (tokensOf (escapeLiteral text)).getLast? ≠ some (.plain '$') := by
    intro hLast
    obtain ⟨c, -, hToken⟩ := List.mem_map.mp
      (tokensOf_write metaRule text ▸ List.mem_of_getLast? hLast)
    exact metaRule.token_ne_of_meta rfl c hToken
  rw [stripAnchors, dropCaret_eq, if_neg hCaret, dropDollar_eq, if_neg hDollar]

/-- The fragment of every expression, whatever backslashes are in it.  One caret
is taken away at the start, and then a dollar sign at the end if it is a token
of its own when the rest is read from left to right.  An expression that spells
out a plain marker keeps all of its text, so its fragment is the marker's. -/
theorem anchors_respect_escapes :
    (∀ source : Text,
      let body := if source.head? = some '^' then source.tail else source
      stripAnchors source =
        if (tokensOf body).getLast? = some (.plain '$') then body.dropLast
        else body) ∧
    ∀ (text : Text) (flags : Int),
      stripAnchors (escapeLiteral text) = escapeLiteral text ∧
      (Marker.expression (escapeLiteral text) flags).fragment.text =
        (Marker.literal text).fragment.text ∧
      (Marker.expression (escapeLiteral text) flags).openingFragment.text =
        (Marker.literal text).fragment.text := by
  refine ⟨fun source => ?_, fun text flags => ?_⟩
  · rw [stripAnchors, dropCaret_eq, dropDollar_eq]
  · have hKept := stripAnchors_escapeLiteral text
    exact ⟨hKept, hKept, hKept⟩

end Retag

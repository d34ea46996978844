import Retag.Regex.Node
import Retag.Marker.Fragment

/-!
# What the reader does with escaped text and simple groups

The reader of expressions walks over tokens.  This module follows it over
the kinds of text that the expression of a plain marker pair is made of: the
escaped characters of a plain text, a look ahead, and a group that captures.
Every statement gives the answer of the reader and the state it leaves, as
`Reading.moved` of the state before, so that the statements compose by
`run_bind_of_ok` alone.

Blanks are never skipped here; the expressions of plain markers are read
without flags.

## Main results

* `Reader.items_escapeLiteral`: an escaped plain text is read as the terms of
  its characters.
* `Reader.lookAhead_run`, `Reader.capture_run`: the two kinds of groups.
* `Reader.items_notEquals`, `Reader.items_contentGroup`: the groups that
  stand between the markers.
-/

namespace Retag.Regex

/-! ## States of the reader -/

/-- A state from which some characters have been read, with what is left. -/
def Reading.moved (s : Reading) (count : Nat) (rest : Text) : Reading :=
  { s with rest := rest, position := s.position + count }

/-- A state inside a new group without a name. -/
def Reading.opened (s : Reading) : Reading := { s with groups := s.groups ++ [none] }

/-- A state behind the end of a group. -/
def Reading.closed (s : Reading) (index : Nat) (body : Term) : Reading :=
  { s with groups := s.groups.set index (some (body.width s.groupWidth)) }

@[simp] theorem Reading.rest_moved (s : Reading) (count : Nat) (rest : Text) :
    (s.moved count rest).rest = rest := rfl

@[simp] theorem Reading.moved_moved (s : Reading) (a b : Nat) (first second : Text) :
    (s.moved a first).moved b second = s.moved (a + b) second := by
  simp [Reading.moved, Nat.add_assoc]

namespace Reader

/-! ## Single steps -/

/-- A computation that succeeds hands its answer and its state on. -/
theorem run_bind_of_ok {α β : Type} {m : Reader α} {f : α → Reader β}
    {s after : Reading} {a : α} (hRun : m.run s = .ok (a, after)) :
    (m >>= f).run s = (f a).run after := by
  rw [StateT.run_bind, hRun]
  rfl

theorem tell_run (s : Reading) : tell.run s = .ok (s.position, s) := rfl

theorem peek_run (s : Reading) : peek.run s = .ok (Token.first? s.rest, s) := rfl

/-- Reading a token, unless a lone backslash is left behind it. -/
theorem take_run {s : Reading} {t : Token} {rest : Text}
    (hRest : s.rest = t.text ++ rest) (hFirst : Token.first? s.rest = some t)
    (hEnd : rest ≠ ['\\']) :
    take.run s = .ok (some t, s.moved t.size rest) := by
  have hDrop : s.rest.drop t.size = rest := by
    rw [hRest, Token.size, List.drop_left]
  rw [take, run_bind_of_ok (StateT.run_get s)]
  simp only [hFirst, hDrop]
  rw [if_neg (by simpa using hEnd)]
  rfl

theorem accept_run {s : Reading} {c : Char} {rest : Text}
    (hRest : s.rest = c :: rest) (hFirst : Token.first? s.rest = some (.plain c))
    (hEnd : rest ≠ ['\\']) :
    (accept c).run s = .ok (true, s.moved 1 rest) := by
  rw [accept, run_bind_of_ok (peek_run s), if_pos (by simp [hFirst])]
  exact run_bind_of_ok (take_run hRest hFirst hEnd)

theorem accept_run_of_ne {s : Reading} {c : Char}
    (hFirst : Token.first? s.rest ≠ some (.plain c)) :
    (accept c).run s = .ok (false, s) := by
  rw [accept, run_bind_of_ok (peek_run s), if_neg (by simpa using hFirst)]
  rfl

theorem close_run {s : Reading} {rest : Text} (start : Nat)
    (hRest : s.rest = ')' :: rest) (hEnd : rest ≠ ['\\']) :
    (close start).run s = .ok ((), s.moved 1 rest) := by
  have hAccept : (accept ')').run s = .ok (true, s.moved 1 rest) :=
    accept_run hRest (by rw [hRest]; rfl) hEnd
  rw [close]
  exact (run_bind_of_ok hAccept).trans rfl

/-! ## Items and alternatives -/

/-- A sequence of items ends where nothing is left or a bar or a closing
parenthesis stands. -/
theorem items_run_of_end {s : Reading} (depth : Nat) (verbose first : Bool)
    (read : List Term)
    (hStop : ∀ t, Token.first? s.rest = some t → endsItems t = true) :
    (items depth verbose first read).run s = .ok (Term.ofReversed read, s) := by
  cases depth with
  | zero =>
      simp only [items]
      rfl
  | succ depth =>
      simp only [items]
      rw [run_bind_of_ok (peek_run s)]
      cases hFirst : Token.first? s.rest with
      | none => rfl
      | some t =>
          simp only [hStop t hFirst]
          rfl

/-- One item of a sequence: its token is read, and what the token begins is
added to the items. -/
theorem items_run_of_item {s after : Reading} {t : Token} {rest : Text}
    {next : List Term} (depth : Nat) (first : Bool) (read : List Term)
    (hRest : s.rest = t.text ++ rest) (hFirst : Token.first? s.rest = some t)
    (hEnd : rest ≠ ['\\']) (hGoesOn : endsItems t = false)
    (hItem : (item (alternatives depth false) (fun v => items depth v false [])
      false first read t).run (s.moved t.size rest) = .ok (next, after))
    (hNext : next.isEmpty = false) :
    (items (depth + 1) false first read).run s =
      (items depth false first next).run after := by
  simp only [items]
  rw [run_bind_of_ok (peek_run s)]
  simp only [hFirst, hGoesOn, Bool.false_eq_true, if_false]
  rw [run_bind_of_ok (take_run hRest hFirst hEnd)]
  cases t with
  | plain c =>
      simp only [Bool.false_and, Bool.false_eq_true, if_false]
      refine (run_bind_of_ok hItem).trans ?_
      rw [run_bind_of_ok (StateT.run_get after)]
      simp only [hNext, Bool.and_false, Bool.false_eq_true, if_false]
  | escaped c => exact run_bind_of_ok hItem

/-- Alternatives without a bar are one sequence of items. -/
theorem alternatives_run {s after : Reading} {t : Term} (depth : Nat) (top : Bool)
    (hItems : (items depth false top []).run s = .ok (t, after))
    (hBar : Token.first? after.rest ≠ some (.plain '|')) :
    (alternatives (depth + 1) top false).run s = .ok (t, after) := by
  have hBranches : (branches depth top false).run after = .ok ([], after) := by
    cases depth with
    | zero =>
        simp only [branches]
        rfl
    | succ depth =>
        simp only [branches]
        rw [run_bind_of_ok (accept_run_of_ne hBar)]
        rfl
  simp only [alternatives]
  rw [run_bind_of_ok hItems]
  exact run_bind_of_ok hBranches

/-! ## Plain text

Every character of an escaped plain text is one token, whose meaning is the
character itself.  This needs a backslash before the characters that mean
something in an expression, and none before letters and digits, to which a
backslash gives a meaning; before any other character there may be one or not.
-/

end Reader

/-- Which characters of a plain text are written with a backslash. -/
structure BackslashRule where
  marks : Char → Bool
  /-- What means something in an expression is marked. -/
  marks_meta : ∀ c, isMeta c = true → marks c = true
  /-- Letters and digits are not. -/
  marks_sign : ∀ c, marks c = true →
    (Text.isAsciiLetter c || Text.isAsciiDigit c) = false

namespace BackslashRule

variable (rule : BackslashRule)

/-- The token that a character is written as. -/
def token (c : Char) : Token := if rule.marks c then .escaped c else .plain c

/-- One character of a plain text as the rule writes it. -/
def writeChar (c : Char) : Text := if rule.marks c then ['\\', c] else [c]

/-- A plain text as the rule writes it. -/
def write (text : Text) : Text := text.flatMap rule.writeChar

@[simp] theorem write_nil : rule.write [] = [] := rfl

@[simp] theorem write_cons (c : Char) (text : Text) :
    rule.write (c :: text) = rule.writeChar c ++ rule.write text := List.flatMap_cons

theorem text_token (c : Char) : (rule.token c).text = rule.writeChar c := by
  unfold token writeChar
  split <;> rfl

theorem first?_writeChar (c : Char) (rest : Text) :
    Token.first? (rule.writeChar c ++ rest) = some (rule.token c) := by
  unfold token writeChar
  split
  · rfl
  · rename_i hMarks
    have hNe : c ≠ '\\' := by
      rintro rfl
      exact hMarks (rule.marks_meta _ rfl)
    simp [Token.first?, hNe]

theorem token_ne_of_meta {c : Char} (hMeta : isMeta c = true) (d : Char) :
    rule.token d ≠ .plain c := by
  unfold token
  split
  · exact Token.noConfusion
  · rename_i hMarks
    intro hSame
    rw [Token.plain.inj hSame, rule.marks_meta c hMeta] at hMarks
    exact hMarks rfl

/-- What is left behind a written text is a lone backslash only if it was one before. -/
theorem write_append_ne {rest : Text} (text : Text) (hEnd : rest ≠ ['\\']) :
    rule.write text ++ rest ≠ ['\\'] := by
  cases text with
  | nil => exact hEnd
  | cons c text =>
      intro hEq
      have hFirst := rule.first?_writeChar c (rule.write text ++ rest)
      rw [← List.append_assoc, ← write_cons, hEq] at hFirst
      exact rule.token_ne_of_meta rfl c (Option.some.inj hFirst).symm

theorem length_le_write (text : Text) : text.length ≤ (rule.write text).length := by
  induction text with
  | nil => simp
  | cons c text ih =>
      have hChar : 1 ≤ (rule.writeChar c).length := by
        unfold writeChar
        split <;> simp
      simp only [write_cons, List.length_append, List.length_cons]
      omega

end BackslashRule

namespace Reader

/-- A backslash before what is neither a letter nor a digit means nothing. -/
theorem escape_run {c : Char}
    (hSign : (Text.isAsciiLetter c || Text.isAsciiDigit c) = false)
    (s : Reading) : (escape c).run s = .ok (.char c.toNat, s) := by
  obtain ⟨hLetter, hDigit⟩ := Bool.or_eq_false_iff.mp hSign
  have hAnchor : anchorEscape? c = none := by
    unfold anchorEscape?
    split
    case h_5 => rfl
    all_goals cases hLetter
  have hCategory : categoryEscape? c = none := by
    unfold categoryEscape?
    split
    case h_7 => rfl
    all_goals cases hLetter
  have hCode : codeEscape? s.subject c = none := by
    unfold codeEscape?
    split
    case h_5 => rfl
    all_goals cases hLetter
  have hZero : (c == '0') = false := by
    rw [beq_eq_false_iff_ne]
    rintro rfl
    cases hDigit
  rw [escape, run_bind_of_ok (StateT.run_get s), hAnchor, hCategory, hCode]
  cases hControl : controlEscape? c with
  | some code =>
      -- the backslash itself is the only one that is no letter
      unfold controlEscape? at hControl
      split at hControl
      case h_7 =>
        cases hControl
        rfl
      case h_8 => cases hControl
      all_goals cases hLetter
  | none =>
      simp only [hZero, hDigit, Bool.false_eq_true, if_false, otherEscape, hLetter,
        Bool.or_self]
      rfl

/-- The characters that mean something in an expression. -/
def metaSigns : List Char :=
  ['.', '*', '+', '?', '^', '$', '\x7b', '\x7d', '(', ')', '|', '[', ']', '\\']

theorem isMeta_iff (c : Char) : isMeta c = true ↔ c ∈ metaSigns := by
  simp [isMeta, metaSigns, or_assoc]

section BackslashRule

variable (rule : BackslashRule)

theorem endsItems_token (c : Char) : endsItems (rule.token c) = false := by
  rw [endsItems, Bool.or_eq_false_iff, beq_eq_false_iff_ne, beq_eq_false_iff_ne]
  exact ⟨rule.token_ne_of_meta rfl c, rule.token_ne_of_meta rfl c⟩

theorem item_token (alternatives branch : Bool → Reader Term) (first : Bool)
    (read : List Term) (c : Char) (s : Reading) :
    (item alternatives branch false first read (rule.token c)).run s =
      .ok (.char c.toNat :: read, s) := by
  unfold BackslashRule.token
  split
  · rename_i hMarks
    have hEscape := escape_run (rule.marks_sign c hMarks) s
    simp only [item]
    exact (run_bind_of_ok (tell_run s)).trans (run_bind_of_ok hEscape)
  · rename_i hMarks
    have hMeta := mt (rule.marks_meta c) hMarks
    rw [isMeta_iff] at hMeta
    simp only [metaSigns, List.mem_cons, List.not_mem_nil, or_false, not_or] at hMeta
    simp only [item]
    -- Only the last case is left: every other one is about a character that
    -- means something.
    split
    all_goals simp_all
    rfl

/-- The terms of a plain text, in the order in which the reader keeps them. -/
def literalTerms (text : Text) : List Term :=
  (text.map fun c => Term.char c.toNat).reverse

/-- A written plain text is read as the terms of its characters. -/
theorem items_write {s : Reading} {rest : Text} (depth : Nat) (first : Bool)
    (read : List Term) (text : Text) (hRest : s.rest = rule.write text ++ rest)
    (hEnd : rest ≠ ['\\']) :
    (items (depth + text.length) false first read).run s =
      (items depth false first (literalTerms text ++ read)).run
        (s.moved (rule.write text).length rest) := by
  induction text generalizing s read with
  | nil =>
      have hSame : s.moved 0 rest = s := by
        rw [show rest = s.rest by simpa using hRest.symm]
        rfl
      simp [literalTerms, hSame]
  | cons c text ih =>
      have hSplit : s.rest = (rule.token c).text ++ (rule.write text ++ rest) := by
        rw [hRest, rule.text_token, rule.write_cons, List.append_assoc]
      have hFirst : Token.first? s.rest = some (rule.token c) := by
        rw [hSplit, rule.text_token]
        exact rule.first?_writeChar c _
      have hStep := items_run_of_item (depth + text.length) first read hSplit hFirst
        (rule.write_append_ne text hEnd) (endsItems_token rule c)
        (item_token rule _ _ first read c _) rfl
      have hSize : (rule.token c).size = (rule.writeChar c).length := by
        rw [Token.size, rule.text_token]
      rw [List.length_cons, ← Nat.add_assoc, hStep, ih _ rfl]
      simp [literalTerms, hSize]

end BackslashRule

/-! ### The rule of markers -/

/-- The characters of a list are neither letters nor digits. -/
theorem sign_of_mem {signs : List Char} {c : Char}
    (hSigns : (signs.all fun c => !(Text.isAsciiLetter c || Text.isAsciiDigit c)) =
      true)
    (hMem : c ∈ signs) : (Text.isAsciiLetter c || Text.isAsciiDigit c) = false :=
  (Bool.not_eq_true' _).mp (List.all_eq_true.mp hSigns c hMem)

/-- A backslash before what means something in an expression, and only there. -/
def metaRule : BackslashRule where
  marks := isMeta
  marks_meta _ hMeta := hMeta
  marks_sign c hMeta := sign_of_mem (by decide) ((isMeta_iff c).mp hMeta)

/-- The token of a character of an escaped plain text. -/
def literalToken (c : Char) : Token := if isMeta c then .escaped c else .plain c

theorem first?_escapeChar (c : Char) (rest : Text) :
    Token.first? (escapeChar c ++ rest) = some (literalToken c) :=
  metaRule.first?_writeChar c rest

theorem escapeLiteral_append_ne {rest : Text} (text : Text) (hEnd : rest ≠ ['\\']) :
    escapeLiteral text ++ rest ≠ ['\\'] :=
  metaRule.write_append_ne text hEnd

theorem length_le_escapeLiteral (text : Text) :
    text.length ≤ (escapeLiteral text).length :=
  metaRule.length_le_write text

/-- An escaped plain text is read as the terms of its characters. -/
theorem items_escapeLiteral {s : Reading} {rest : Text} (depth : Nat) (first : Bool)
    (read : List Term) (text : Text) (hRest : s.rest = escapeLiteral text ++ rest)
    (hEnd : rest ≠ ['\\']) :
    (items (depth + text.length) false first read).run s =
      (items depth false first (literalTerms text ++ read)).run
        (s.moved (escapeLiteral text).length rest) :=
  items_write metaRule depth first read text hRest hEnd

/-! ## Groups -/

theorem lookAhead_run {alternatives branch : Bool → Reader Term} {s after : Reading}
    {t : Term} {inner rest : Text} (atStart : Bool)
    (hRest : s.rest = '?' :: '!' :: inner) (hInner : inner ≠ ['\\'])
    (hBody : (alternatives false).run (s.moved 2 inner) = .ok (t, after))
    (hClose : after.rest = ')' :: rest) (hEnd : rest ≠ ['\\']) :
    (group alternatives branch false atStart).run s =
      .ok (some (.look false true t), after.moved 1 rest) := by
  have hMark : (accept '?').run s = .ok (true, s.moved 1 ('!' :: inner)) :=
    accept_run hRest (by rw [hRest]; rfl) (by simp)
  have hSign : take.run (s.moved 1 ('!' :: inner)) =
      .ok (some (.plain '!'), s.moved 2 inner) :=
    take_run rfl rfl hInner
  have hLook : (look (alternatives false) (s.position - 1) false true).run
      (s.moved 2 inner) = .ok (.look false true t, after.moved 1 rest) := by
    rw [look, run_bind_of_ok (StateT.run_get _)]
    simp only [Bool.false_and, Bool.false_eq_true, if_false]
    refine (run_bind_of_ok hBody).trans ?_
    exact (run_bind_of_ok (close_run _ hClose hEnd)).trans rfl
  have hOpening :
      (opening (alternatives false) (branch false) (s.position - 1) atStart).run
      s = .ok (.complete (some (.look false true t)), after.moved 1 rest) := by
    rw [opening, run_bind_of_ok hMark]
    exact (run_bind_of_ok hSign).trans (run_bind_of_ok hLook)
  rw [group, run_bind_of_ok (tell_run s)]
  exact run_bind_of_ok hOpening

/-- A group that captures takes the next number. -/
theorem capture_run {alternatives branch : Bool → Reader Term} {s after : Reading}
    {t : Term} {rest : Text} (atStart : Bool)
    (hFirst : Token.first? s.rest ≠ some (.plain '?'))
    (hBody : (alternatives false).run s.opened = .ok (t, after))
    (hClose : after.rest = ')' :: rest) (hEnd : rest ≠ ['\\']) :
    (group alternatives branch false atStart).run s =
      .ok (some (.group (some s.groups.length) 0 0 t),
        (after.moved 1 rest).closed s.groups.length t) := by
  have hOpening :
      (opening (alternatives false) (branch false) (s.position - 1) atStart).run
      s = .ok (.capture none, s) := by
    rw [opening, run_bind_of_ok (accept_run_of_ne hFirst)]
    rfl
  have hNumber : (openGroup none).run s = .ok (s.groups.length, s.opened) := rfl
  rw [group, run_bind_of_ok (tell_run s)]
  refine (run_bind_of_ok hOpening).trans ?_
  refine (run_bind_of_ok hNumber).trans ?_
  refine (run_bind_of_ok hBody).trans ?_
  exact (run_bind_of_ok (close_run _ hClose hEnd)).trans rfl

/-! ## The two groups of a tag's expression -/

/-- The term of the look ahead that refuses an equals sign. -/
def refusingTerm : Term := .look false true (.char '='.toNat)

/-- The term of any character. -/
def anyTerm : Term := .set false [.category .blank false, .category .blank true]

/-- What the group for a tag's content holds. -/
def contentTerm : Term := .many .lazy 1 none anyTerm

theorem items_notEquals {s : Reading} {rest : Text} (depth : Nat) (first : Bool)
    (read : List Term) (hRest : s.rest = notEquals ++ rest) (hEnd : rest ≠ ['\\']) :
    (items (depth + 3) false first read).run s =
      (items (depth + 2) false first (refusingTerm :: read)).run (s.moved 5 rest) := by
  have hSplit : s.rest = (Token.plain '(').text ++ ('?' :: '!' :: '=' :: ')' :: rest) :=
    hRest
  have hSign : (items (depth + 1) false false []).run (s.moved 3 ('=' :: ')' :: rest)) =
      .ok (.char '='.toNat, s.moved 4 (')' :: rest)) := by
    have hRest : (s.moved 3 ('=' :: ')' :: rest)).rest =
        escapeLiteral ['='] ++ (')' :: rest) := rfl
    refine (items_escapeLiteral depth false [] ['='] hRest (by simp)).trans ?_
    exact items_run_of_end depth false false _ (by rintro t ⟨⟩; rfl)
  have hInside : '=' :: ')' :: rest ≠ ['\\'] := by simp
  have hBody := alternatives_run (depth + 1) false hSign (by simp [Token.first?])
  have hGroup :
      (group (alternatives (depth + 2) false) (fun v => items (depth + 2) v false [])
      false (first && read.isEmpty)).run
      (s.moved 1 ('?' :: '!' :: '=' :: ')' :: rest)) =
      .ok (some refusingTerm, s.moved 5 rest) :=
    (lookAhead_run _ rfl hInside hBody rfl hEnd).trans rfl
  refine items_run_of_item (depth + 2) first read hSplit (by rw [hRest]; rfl) (by simp)
    rfl ?_ rfl
  simp only [item]
  exact (run_bind_of_ok (tell_run _)).trans (run_bind_of_ok hGroup)

/-- The set of any character, after its opening bracket. -/
theorem charSet_any {s : Reading} {rest : Text}
    (hRest : s.rest = '\\' :: 's' :: '\\' :: 'S' :: ']' :: '+' :: rest) :
    charSet.run s = .ok (anyTerm, s.moved 5 ('+' :: rest)) := by
  obtain ⟨subject, source, position, rest', flags, names, groups, behind,
    conditions⟩ := s
  simp only at hRest
  subst hRest
  rfl

/-- The lazy repetition of the only item, after its plus sign. -/
theorem repeatLast_lazy {s : Reading} {rest : Text} (position : Nat)
    (hRest : s.rest = '?' :: ')' :: rest) :
    (repeatLast position 1 none [anyTerm]).run s =
      .ok ([contentTerm], s.moved 1 (')' :: rest)) := by
  obtain ⟨subject, source, position, rest', flags, names, groups, behind,
    conditions⟩ := s
  simp only at hRest
  subst hRest
  rfl

/-- What stands between the parentheses of the group for the content. -/
theorem items_content {s : Reading} {rest : Text} (depth : Nat)
    (hRest : s.rest = '[' :: '\\' :: 's' :: '\\' :: 'S' :: ']' :: '+' :: '?' ::
      ')' :: rest) :
    (items (depth + 2) false false []).run s =
      .ok (contentTerm, s.moved 8 (')' :: rest)) := by
  have hSplit : s.rest = (Token.plain '[').text ++
      ('\\' :: 's' :: '\\' :: 'S' :: ']' :: '+' :: '?' :: ')' :: rest) := hRest
  have hSet : (items (depth + 2) false false []).run s =
      (items (depth + 1) false false [anyTerm]).run
      (s.moved 6 ('+' :: '?' :: ')' :: rest)) := by
    refine items_run_of_item (depth + 1) false [] hSplit (by rw [hRest]; rfl) (by simp)
      rfl ?_ rfl
    simp only [item]
    refine (run_bind_of_ok (tell_run _)).trans ?_
    exact (run_bind_of_ok (charSet_any rfl)).trans (by simp; rfl)
  have hPlus : (items (depth + 1) false false [anyTerm]).run
        (s.moved 6 ('+' :: '?' :: ')' :: rest)) =
      (items depth false false [contentTerm]).run (s.moved 8 (')' :: rest)) := by
    have hSplit : (s.moved 6 ('+' :: '?' :: ')' :: rest)).rest =
        (Token.plain '+').text ++ ('?' :: ')' :: rest) := rfl
    refine items_run_of_item depth false [anyTerm] hSplit rfl (by simp) rfl ?_ rfl
    simp only [item]
    refine (run_bind_of_ok (tell_run _)).trans ?_
    exact (repeatLast_lazy _ rfl).trans (by simp; rfl)
  rw [hSet, hPlus]
  exact items_run_of_end depth false false _ (by rintro t ⟨⟩; rfl)

theorem items_contentGroup {s : Reading} {rest : Text} (depth : Nat) (first : Bool)
    (read : List Term) (hRest : s.rest = contentGroup ++ rest)
    (hEnd : rest ≠ ['\\']) :
    (items (depth + 4) false first read).run s =
      (items (depth + 3) false first
        (.group (some s.groups.length) 0 0 contentTerm :: read)).run
          ((s.opened.moved 10 rest).closed s.groups.length contentTerm) := by
  have hSplit : s.rest = (Token.plain '(').text ++
      ('[' :: '\\' :: 's' :: '\\' :: 'S' :: ']' :: '+' :: '?' :: ')' :: rest) := hRest
  generalize hInside :
    '[' :: '\\' :: 's' :: '\\' :: 'S' :: ']' :: '+' :: '?' :: ')' :: rest =
      inside at hSplit
  have hContent : (items (depth + 2) false false []).run (s.moved 1 inside).opened =
      .ok (contentTerm, s.opened.moved 9 (')' :: rest)) := by
    refine (items_content depth hInside.symm).trans ?_
    simp [Reading.moved, Reading.opened]
  have hBody := alternatives_run (depth + 2) false hContent (by simp [Token.first?])
  have hGroup :
      (group (alternatives (depth + 3) false) (fun v => items (depth + 3) v false [])
      false (first && read.isEmpty)).run (s.moved 1 inside) =
      .ok (some (.group (some s.groups.length) 0 0 contentTerm),
        (s.opened.moved 10 rest).closed s.groups.length contentTerm) :=
    capture_run _ (by simp [← hInside, Token.first?]) hBody rfl hEnd
  refine items_run_of_item (depth + 3) first read hSplit (by rw [hRest]; rfl)
    (by simp [← hInside]) rfl ?_ rfl
  simp only [item]
  exact (run_bind_of_ok (tell_run _)).trans (run_bind_of_ok hGroup)

end Reader

end Retag.Regex

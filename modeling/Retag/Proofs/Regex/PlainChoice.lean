import Retag.Proofs.Tag.Matcher

/-!
# Expressions for plain texts

A plain text is written with a backslash before some of its characters, and
several of them with bars between them.  The reader takes the bars for
alternatives and every written character for itself, whatever the texts are,
so the expression compiles, has no groups, and tries one text after the other.

An escaped plain text is the case of one text.  Its expression matches where
the text stands and nowhere else.

## Main results

* `Regex.compile_choice`: what is written for several texts compiles.
* `Node.matchesIn_congr`: nodes that run alike find the same.
* `run_plainNode_eq_some`: the one way in which a plain text matches.
* `escaped_literal_matches_itself`: the expression of one text.
-/

namespace Retag

open Text Regex

namespace Regex

/-! ## Nodes that are tried in order -/

/-- One of the nodes of a nonempty list, tried in order. -/
def Node.oneOf (first : Node) : List Node → Node
  | [] => first
  | second :: more => .alt first (Node.oneOf second more)

/-- The term of a plain text. -/
def plainTerm (text : Text) : Term := Term.ofReversed (Reader.literalTerms text)

/-- The node of a plain text. -/
def plainNode (text : Text) : Node := Node.ofReversed (literalNodes text).reverse

theorem compile_plainTerm (groups : Nat → Width) (text : Text) :
    (plainTerm text).compile groups plainFlags = .ok (plainNode text) := by
  have hCompile := compile_ofReversed (sound_literalParts groups text)
  rw [terms_literalParts, nodes_literalParts] at hCompile
  exact hCompile

theorem compile_plainTerms (groups : Nat → Width) (text : Text) (more : List Text) :
    (Term.oneOf (plainTerm text) (more.map plainTerm)).compile groups plainFlags =
      .ok (Node.oneOf (plainNode text) (more.map plainNode)) := by
  induction more generalizing text with
  | nil => exact compile_plainTerm groups text
  | cons second more ih =>
      simp only [List.map_cons, Term.oneOf, Term.compile]
      rw [compile_plainTerm, ih second]
      rfl

/-! ## Reading -/

section Reading

variable (rule : BackslashRule)

/-- Texts behind the first one, each after a bar. -/
def barred (texts : List Text) : Text :=
  texts.flatMap fun text => '|' :: rule.write text

theorem barred_cons (text : Text) (texts : List Text) :
    barred rule (text :: texts) = '|' :: (rule.write text ++ barred rule texts) :=
  List.flatMap_cons

theorem barred_ne (texts : List Text) : barred rule texts ≠ ['\\'] := by
  cases texts with
  | nil => exact (List.cons_ne_nil _ _).symm
  | cons text texts =>
      rw [barred_cons]
      intro hSame
      exact absurd (List.cons.inj hSame).1 (by decide)

theorem write_barred_ne (text : Text) (texts : List Text) :
    rule.write text ++ barred rule texts ≠ ['\\'] :=
  rule.write_append_ne text (barred_ne rule texts)

/-- A sequence of items ends before a bar and at the end. -/
theorem endsItems_barred (texts : List Text) :
    ∀ t, Token.first? (barred rule texts) = some t → Reader.endsItems t = true := by
  intro t hFirst
  cases texts with
  | nil => cases hFirst
  | cons text texts =>
      rw [barred_cons] at hFirst
      cases hFirst
      rfl

/-- One text is a sequence of items, up to the bar behind it. -/
theorem items_run_barred {s : Reading} (depth : Nat) (first : Bool) (text : Text)
    (texts : List Text) (hRest : s.rest = rule.write text ++ barred rule texts)
    (hDepth : text.length ≤ depth) :
    (Reader.items depth false first []).run s =
      .ok (plainTerm text, s.moved (rule.write text).length (barred rule texts)) := by
  obtain ⟨spare, rfl⟩ := Nat.exists_eq_add_of_le' hDepth
  rw [Reader.items_write rule spare first [] text hRest (barred_ne rule texts),
    List.append_nil]
  exact Reader.items_run_of_end spare false first _ (endsItems_barred rule texts)

/-- The texts behind the first one are read to the end. -/
theorem branches_run_barred {s : Reading} (depth : Nat) (texts : List Text)
    (hRest : s.rest = barred rule texts) (hFlags : s.flags = 0)
    (hDepth : (barred rule texts).length ≤ depth) :
    (Reader.branches depth true false).run s =
      .ok (texts.map plainTerm, s.moved (barred rule texts).length []) := by
  induction texts generalizing s depth with
  | nil =>
      have hSame : s.moved 0 [] = s := by
        rw [show ([] : Text) = s.rest from hRest.symm]
        rfl
      rw [barred, List.flatMap_nil, List.length_nil, hSame]
      cases depth with
      | zero =>
          simp only [Reader.branches]
          rfl
      | succ depth =>
          have hBar : Token.first? s.rest ≠ some (.plain '|') := by
            rw [hRest]
            exact (Option.some_ne_none _).symm
          simp only [Reader.branches]
          rw [Reader.run_bind_of_ok (Reader.accept_run_of_ne hBar)]
          rfl
  | cons text texts ih =>
      rw [barred_cons] at hRest hDepth
      have hWritten := rule.length_le_write text
      simp only [List.length_cons, List.length_append] at hDepth
      obtain ⟨depth, rfl⟩ := Nat.exists_eq_succ_of_ne_zero (by omega : depth ≠ 0)
      have hBar : (Reader.accept '|').run s =
          .ok (true, s.moved 1 (rule.write text ++ barred rule texts)) :=
        Reader.accept_run hRest (by rw [hRest]; rfl) (write_barred_ne rule text texts)
      have hItems := items_run_barred rule depth false text texts
        (Reading.rest_moved s 1 (rule.write text ++ barred rule texts)) (by omega)
      rw [Reading.moved_moved] at hItems
      have hMore :=
        @ih (s.moved (1 + (rule.write text).length) (barred rule texts)) depth rfl
        hFlags (by omega)
      have hLength : (barred rule (text :: texts)).length =
          1 + (rule.write text).length + (barred rule texts).length := by
        rw [barred_cons, List.length_cons, List.length_append]
        omega
      have hVerbose : (s.moved 1 (rule.write text ++ barred rule texts)).flags.has
        .verbose =
          false := by
        show s.flags.has .verbose = false
        rw [hFlags]
        rfl
      rw [Reading.moved_moved] at hMore
      simp only [Reader.branches]
      rw [Reader.run_bind_of_ok hBar]
      simp only [if_true]
      rw [Reader.run_bind_of_ok (StateT.run_get _), hVerbose,
        Reader.run_bind_of_ok hItems, Reader.run_bind_of_ok hMore, hLength]
      rfl

/-- What is written for several texts: bars stand between them. -/
def choiceText (texts : List Text) : Text :=
  List.intercalate ['|'] (texts.map rule.write)

theorem choiceText_cons (text : Text) (more : List Text) :
    choiceText rule (text :: more) = rule.write text ++ barred rule more := by
  induction more generalizing text with
  | nil => simp [choiceText, barred]
  | cons second more ih =>
      have hMore := ih second
      simp only [choiceText, List.map_cons] at hMore ⊢
      rw [List.intercalate_cons_cons, hMore, barred_cons, List.append_assoc]
      rfl

/-- What is written for several texts compiles, without groups, to their nodes
in order. -/
theorem compile_choice (text : Text) (more : List Text) :
    Regex.compile (choiceText rule (text :: more)) 0 =
      .ok ⟨choiceText rule (text :: more), plainFlags, 0,
        Node.oneOf (plainNode text) (more.map plainNode)⟩ := by
  let source := choiceText rule (text :: more)
  let start := Reading.initial .text source 0
  have hSource : source = rule.write text ++ barred rule more :=
    choiceText_cons rule text more
  have hWritten := rule.length_le_write text
  have hLength : source.length =
      (rule.write text).length + (barred rule more).length := by
    rw [hSource, List.length_append]
  have hItems :=
    @items_run_barred rule start (2 * source.length + 3) true text more hSource
    (by omega)
  have hMore := @branches_run_barred rule
    (start.moved (rule.write text).length (barred rule more)) (2 * source.length + 3)
    more rfl rfl (by omega)
  have hRun : (Reader.alternatives (2 * source.length + 4) true false).run start =
      .ok (Term.oneOf (plainTerm text) (more.map plainTerm),
        start.moved ((rule.write text).length + (barred rule more).length) []) := by
    rw [Reading.moved_moved] at hMore
    simp only [Reader.alternatives]
    rw [Reader.run_bind_of_ok hItems, Reader.run_bind_of_ok hMore]
    rfl
  have hEnd : source ≠ ['\\'] := by
    rw [hSource]
    exact write_barred_ne rule text more
  exact compile_of_run hEnd hRun rfl rfl rfl fun groups =>
    compile_plainTerms groups text more

end Reading

/-! ## Nodes that run alike -/

/-- Nodes that run alike find the same matches. -/
theorem Node.matchesIn_congr {a b : Node} (hRun : ∀ k, a.run k = b.run k)
    (text : Text) :
    a.matchesIn text = b.matchesIn text := by
  have hMatch : ∀ advancing c, a.matchAt? advancing c = b.matchAt? advancing c := by
    intro advancing c
    rw [Node.matchAt?, Node.matchAt?, hRun]
  have hSearch : ∀ fuel advancing c,
      a.searchWithin? fuel advancing c = b.searchWithin? fuel advancing c := by
    intro fuel
    induction fuel with
    | zero => exact hMatch
    | succ fuel ih =>
        intro advancing c
        simp only [Node.searchWithin?, hMatch, ih]
  have hMatches : ∀ fuel advancing c,
      a.matchesWithin fuel advancing c = b.matchesWithin fuel advancing c := by
    intro fuel
    induction fuel with
    | zero => exact fun _ _ => rfl
    | succ fuel ih =>
        intro advancing c
        simp only [Node.matchesWithin, Node.search?, hSearch, ih]
  exact hMatches _ _ _

end Regex

/-! ## One text -/

/-- The node of a plain text has one way to match: the text stands there, and
what follows the node succeeds behind it. -/
theorem run_plainNode_eq_some {text before rest : Text} {marks : Marks} {k : Cont}
    {t : Spot} :
    (plainNode text).run k ⟨.between before rest, marks⟩ = some t ↔
      ∃ after, rest = text ++ after ∧
      k ⟨.between (before ++ text) after, marks⟩ = some t := by
  have hBehind : ∀ after, (Cursor.between before (text ++ after)).past text.length =
      .between (before ++ text) after := by
    intro after
    apply Cursor.ext_pieces
    · simp [Cursor.past, Cursor.between]
    · simp [Cursor.between]
  have hRun : (plainNode text).run k ⟨.between before rest, marks⟩ =
      if text.isPrefixOf rest then
        k ⟨(Cursor.between before rest).past text.length, marks⟩
      else none := by
    rw [plainNode, run_literalNodes]
    rfl
  rw [hRun]
  constructor
  · intro hSome
    by_cases hPrefix : text.isPrefixOf rest = true
    · obtain ⟨after, rfl⟩ := List.isPrefixOf_iff_prefix.mp hPrefix
      rw [if_pos hPrefix, hBehind] at hSome
      exact ⟨after, rfl, hSome⟩
    · rw [if_neg hPrefix] at hSome
      cases hSome
  · rintro ⟨after, rfl, hSome⟩
    rw [if_pos (List.isPrefixOf_iff_prefix.mpr (List.prefix_append text after)),
      hBehind]
    exact hSome

/-- An escaped plain text is the text of an expression without groups.  At a
place of a text the expression matches exactly if the plain text stands there,
and the match ends behind it.  It has no other way to match, whatever has to
follow it. -/
theorem escaped_literal_matches_itself (text : Text) :
    ∃ r, Regex.compile (escapeLiteral text) 0 = .ok r ∧ r.groupCount = 0 ∧
      (∀ (before rest : Text) (m : Match),
        r.node.matchAt? false (.between before rest) = some m ↔
          ∃ after, rest = text ++ after ∧
            m = ⟨.between before rest, .between (before ++ text) after, []⟩) ∧
      ∀ (before rest : Text) (marks : Marks) (k : Cont) (t : Spot),
        r.node.run k ⟨.between before rest, marks⟩ = some t ↔
          ∃ after, rest = text ++ after ∧
            k ⟨.between (before ++ text) after, marks⟩ = some t := by
  have hWritten : choiceText Reader.metaRule [text] = escapeLiteral text :=
    List.intercalate_singleton
  have hCompile := compile_choice Reader.metaRule text []
  rw [hWritten] at hCompile
  refine ⟨_, hCompile, rfl, fun before rest m => ?_,
    fun _ _ _ _ _ => run_plainNode_eq_some⟩
  show (plainNode text).matchAt? false (.between before rest) = some m ↔ _
  rw [Node.matchAt?_eq, Option.map_eq_some_iff]
  constructor
  · rintro ⟨t, hRun, rfl⟩
    obtain ⟨after, hRest, hEnd⟩ := run_plainNode_eq_some.mp hRun
    obtain rfl := Option.some.inj hEnd
    exact ⟨after, hRest, rfl⟩
  · rintro ⟨after, hRest, rfl⟩
    exact ⟨_, run_plainNode_eq_some.mpr ⟨after, hRest, rfl⟩, rfl⟩

end Retag

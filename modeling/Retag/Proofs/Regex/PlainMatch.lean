import Retag.Regex.Match
import Retag.Proofs.Text.FirstPlace

/-!
# Matching plain text

What the matcher does with the nodes that plain markers and sentinels are
made of.  A node that takes a plain text asks for nothing but that text, and
goes on behind it; the node of a tag's content tries one place after the
other until the rest of the expression matches.  So a match of these nodes
depends on the rest of the text alone, and searching for one is `firstPlace`.

## Main results

* `run_literalNodes`: the nodes of a plain text match it and nothing else.
* `run_content`: the content of a tag ends at the first place, after one
  character, where what follows matches.
* `Node.search?_eq_firstPlace`: a search finds the first place where a match begins.
-/

namespace Retag

/-! ## Moving a cursor -/

namespace Text.Cursor

/-- The place so many characters later, or the end of the text. -/
def past (c : Cursor) (count : Nat) : Cursor :=
  ⟨(c.rest.take count).reverse ++ c.before, c.rest.drop count, c.left - count, by
    simp [c.left_eq]⟩

@[simp] theorem rest_past (c : Cursor) (count : Nat) :
    (c.past count).rest = c.rest.drop count := rfl

@[simp] theorem left_past (c : Cursor) (count : Nat) :
    (c.past count).left = c.left - count := rfl

@[simp] theorem past_zero (c : Cursor) : c.past 0 = c :=
  ext_pieces (by simp [past]) rfl

@[simp] theorem past_past (c : Cursor) (a b : Nat) :
    (c.past a).past b = c.past (a + b) := by
  refine ext_pieces ?_ (by simp)
  simp [past, List.take_add]

theorem next?_eq_past {c : Cursor} {x : Char} {rest : List Char}
    (hRest : c.rest = x :: rest) :
    c.next? = some (x, c.past 1) := by
  obtain ⟨d, hNext, hBefore, hAfter⟩ := next?_cons hRest
  have hPast : d = c.past 1 :=
    ext_pieces (by simp [hBefore, past, hRest]) (by simp [hAfter, hRest])
  rw [hNext, hPast]

@[simp] theorem upTo_past (c : Cursor) (count : Nat) :
    c.upTo (c.past count) = c.rest.take count := by
  rw [upTo, left_past, c.left_eq, List.take_eq_take_iff]
  omega

end Text.Cursor

namespace Regex

open Text

/-! ## Plain text -/

/-- Work that goes on behind a plain text. -/
def expecting (text : Text) (k : Cont) : Cont := fun s =>
  if text.isPrefixOf s.cursor.rest then k ⟨s.cursor.past text.length, s.marks⟩
  else none

/-- The nodes of a plain text. -/
def literalNodes (text : Text) : List Node := text.map fun c => .one (.single c.toNat)

@[simp] theorem expecting_nil (k : Cont) : expecting [] k = k := by
  funext s
  simp [expecting]

theorem run_single (c : Char) (k : Cont) :
    (Node.one (.single c.toNat)).run k = expecting [c] k := by
  funext s
  cases hRest : s.cursor.rest with
  | nil => simp [Node.run, expecting, Cursor.next?_eq_none hRest, hRest]
  | cons x rest =>
      simp only [Node.run, Cursor.next?_eq_past hRest, CharSet.has_single, expecting,
        hRest, List.isPrefixOf]
      by_cases hEq : x = c
      · simp [hEq]
      · have hSwap : ¬ c = x := fun h => hEq h.symm
        simp [hEq, hSwap]

theorem expecting_append (a b : Text) (k : Cont) :
    expecting a (expecting b k) = expecting (a ++ b) k := by
  funext s
  simp only [expecting, List.isPrefixOf_iff_prefix, Cursor.rest_past, Cursor.past_past,
    List.length_append]
  by_cases hFirst : a <+: s.cursor.rest
  · obtain ⟨tail, hTail⟩ := hFirst
    have hBoth : a ++ b <+: a ++ tail ↔ b <+: tail := List.prefix_append_right_inj a
    simp [← hTail, hBoth]
  · have hBoth : ¬ a ++ b <+: s.cursor.rest :=
      fun h => hFirst ((List.prefix_append a b).trans h)
    simp [hFirst, hBoth]

/-- Plain text is expected exactly where it stands as a marker. -/
theorem expecting_eq_bind (text : Text) (k : Cont) (s : Spot) :
    expecting text k s =
      (afterMarker? text s.cursor.rest).bind fun _ =>
        k ⟨s.cursor.past text.length, s.marks⟩ := by
  unfold expecting afterMarker?
  split <;> rfl

/-! ## Sequences -/

/-- The nodes of a list after each other; the list holds the last one first. -/
def Node.ofReversed : List Node → Node
  | [] => .done
  | [n] => n
  | n :: earlier => .cat (Node.ofReversed earlier) n

/-- The last node of a sequence runs after the others. -/
theorem run_ofReversed_cons (n : Node) (earlier : List Node) (k : Cont) :
    (Node.ofReversed (n :: earlier)).run k =
      (Node.ofReversed earlier).run (n.run k) := by
  cases earlier with
  | nil => rfl
  | cons m earlier => rfl

theorem run_ofReversed_append (later earlier : List Node) (k : Cont) :
    (Node.ofReversed (later ++ earlier)).run k =
      (Node.ofReversed earlier).run ((Node.ofReversed later).run k) := by
  induction later generalizing k with
  | nil => rfl
  | cons n later ih =>
      rw [List.cons_append, run_ofReversed_cons, ih, run_ofReversed_cons]

/-- The nodes of a plain text match it and nothing else. -/
theorem run_literalNodes (text : Text) (k : Cont) :
    (Node.ofReversed (literalNodes text).reverse).run k = expecting text k := by
  induction text generalizing k with
  | nil =>
      funext s
      simp [literalNodes, Node.ofReversed, Node.run]
  | cons c text ih =>
      have hCons : (literalNodes (c :: text)).reverse =
          (literalNodes text).reverse ++ [.one (.single c.toNat)] := by
        simp [literalNodes]
      rw [hCons, run_ofReversed_append, ih]
      show (Node.one (.single c.toNat)).run (expecting text k) = _
      rw [run_single, expecting_append]
      rfl

/-! ## Looking ahead -/

/-- A look ahead for a character that must not follow. -/
theorem run_refusing (c : Char) (k : Cont) (s : Spot) :
    (Node.look 0 true (.one (.single c.toNat))).run k s =
      if s.cursor.rest.head? = some c then none else k s := by
  have hRun : (Node.one (.single c.toNat)).run some ⟨s.cursor, s.marks⟩ =
      expecting [c] some s := by rw [run_single]
  simp only [Node.run, Cursor.back?] at hRun ⊢
  rw [hRun]
  cases hRest : s.cursor.rest with
  | nil => simp [expecting, hRest]
  | cons x rest =>
      by_cases hEq : x = c
      · simp [expecting, hRest, hEq]
      · have hSwap : ¬ c = x := fun h => hEq h.symm
        simp [expecting, hRest, hEq, hSwap]

/-! ## Contents -/

/-- The node of any one character. -/
def anyCharacter : Node := .one .everything

theorem run_anyCharacter (k : Cont) (s : Spot) :
    anyCharacter.run k s =
      match s.cursor.rest with
      | [] => none
      | _ :: _ => k ⟨s.cursor.past 1, s.marks⟩ := by
  cases hRest : s.cursor.rest with
  | nil => simp [anyCharacter, Node.run, Cursor.next?_eq_none hRest]
  | cons x rest =>
      simp [anyCharacter, Node.run, Cursor.next?_eq_past hRest, CharSet.has_everything]

/-- The last turn of a lazy repetition, and one before it. -/
theorem lazy_zero (body : Cont → Cont) (k : Cont) (s : Spot) :
    lazy body k 0 none s = orTry (k s) fun _ => body k s := rfl

theorem lazy_succ (body : Cont → Cont) (k : Cont) (fuel : Nat) (s : Spot) :
    lazy body k (fuel + 1) none s =
      orTry (k s) fun _ => body (fun t =>
        if t.cursor.left < s.cursor.left then lazy body k fuel none t else k t) s := rfl

/-- As few characters as possible: what follows answers from the first place
where it answers at all. -/
theorem lazy_anyCharacter {α : Type} {at? : Text → Option α}
    {answer : Cursor → α → Spot} {k : Cont} {marks : Marks}
    (hCont : ∀ c, k ⟨c, marks⟩ = (at? c.rest).map (answer c)) (c : Cursor) :
    lazy (fun k t => anyCharacter.run k t) k c.left none ⟨c, marks⟩ =
      (firstPlace at? c.rest).map fun place =>
        answer (c.past place.1.length) place.2 := by
  generalize hRest : c.rest = rest
  -- every turn takes one character, so the fuel is the length of the rest
  induction rest generalizing c with
  | nil =>
      have hLeft : c.left = 0 := by rw [c.left_eq, hRest]; rfl
      rw [hLeft, lazy_zero, run_anyCharacter, hCont, hRest]
      cases hFound : at? [] <;> simp [firstPlace, hFound, orTry]
  | cons x rest ih =>
      have hLeft : c.left = rest.length + 1 := by rw [c.left_eq, hRest]; rfl
      have hPast : (c.past 1).rest = rest := by simp [hRest]
      have hTurn : (c.past 1).left = rest.length := by simp [hLeft]
      have ih := ih (c.past 1) hPast
      rw [hTurn] at ih
      rw [hLeft, lazy_succ, run_anyCharacter, hCont, hRest]
      cases hFound : at? (x :: rest) with
      | some found => simp [firstPlace_of_some hFound, orTry]
      | none =>
          rw [firstPlace_of_none hFound]
          simp only [Option.map_none, orTry, hTurn, hLeft, Nat.lt_succ_self, if_true,
            Option.map_map]
          rw [ih]
          simp [Function.comp_def, Nat.add_comm]

/-- The node of a tag's content: the first group, at least one character,
and as few as possible. -/
def contentNode : Node := .group 1 (.many .lazy 1 none anyCharacter)

/-- A content ends at the first place, after one character, where what
follows answers. -/
theorem run_content {α : Type} {at? : Text → Option α}
    {answer : Cursor → α → Spot} {k : Cont} {s : Spot}
    (hCont : ∀ d,
      k ⟨d, (s.marks.enter 1 s.cursor).leave 1 d⟩ = (at? d.rest).map (answer d)) :
    contentNode.run k s =
      match s.cursor.rest with
      | [] => none
      | _ :: rest =>
        (firstPlace at? rest).map fun place =>
          answer (s.cursor.past (place.1.length + 1)) place.2 := by
  show anyCharacter.run (fun t => lazy (fun k t => anyCharacter.run k t)
    (fun t => k ⟨t.cursor, t.marks.leave 1 t.cursor⟩) t.cursor.left none t)
    ⟨s.cursor, s.marks.enter 1 s.cursor⟩ = _
  rw [run_anyCharacter]
  cases hRest : s.cursor.rest with
  | nil => rfl
  | cons x rest =>
      simp only
      rw [lazy_anyCharacter hCont, Cursor.rest_past, hRest, List.drop_one,
        List.tail_cons]
      simp only [Cursor.past_past, Nat.add_comm]

/-! ## Searching -/

/-- Where an empty match counts, nothing is asked of the end of a match. -/
theorem Node.matchAt?_eq (node : Node) (c : Cursor) :
    node.matchAt? false c = (node.run some ⟨c, []⟩).map fun t =>
      ⟨c, t.cursor, t.marks⟩ := rfl

/-- A search finds the first place where a match begins, when a match
depends on the rest of the text alone. -/
theorem Node.search?_eq_firstPlace {α : Type} {node : Node} {at? : Text → Option α}
    {toMatch : Cursor → α → Match}
    (hMatch : ∀ c, node.matchAt? false c = (at? c.rest).map (toMatch c))
    (c : Cursor) :
    node.search? false c =
      (firstPlace at? c.rest).map fun place =>
        toMatch (c.past place.1.length) place.2 := by
  unfold Node.search?
  generalize hRest : c.rest = rest
  induction rest generalizing c with
  | nil =>
      have hLeft : c.left = 0 := by rw [c.left_eq, hRest]; rfl
      rw [hLeft, Node.searchWithin?, hMatch, hRest]
      cases hFound : at? [] <;> simp [firstPlace, hFound]
  | cons x rest ih =>
      have hLeft : c.left = rest.length + 1 := by rw [c.left_eq, hRest]; rfl
      have ih := ih (c.past 1) (by simp [hRest])
      rw [Cursor.left_past, hLeft, Nat.add_sub_cancel] at ih
      rw [hLeft, Node.searchWithin?, hMatch, hRest]
      cases hFound : at? (x :: rest) with
      | some found => simp [firstPlace_of_some hFound]
      | none =>
          rw [firstPlace_of_none hFound]
          simp only [Option.map_none, Cursor.next?_eq_past hRest, ih, Option.map_map]
          simp [Function.comp_def, Nat.add_comm]

end Regex

end Retag

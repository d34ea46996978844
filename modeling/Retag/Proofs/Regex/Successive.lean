import Retag.Proofs.Regex.Forward

/-!
# Successive matches

Going through a text, the matcher looks for the first match at or behind the
place where it stands, goes to the end of that match, and looks again.  An
empty match would be found there a second time, so after an empty match
another empty one does not count at the same place.

`Node.Finds` says what the first match is in terms of all places of the text,
and `Node.Successive` what a list of matches is that follow each other until no
further one is found.  The matcher counts its turns down from a number that
depends on the text alone.  That is enough: every turn moves on by a character,
or it finds an empty match where one still counts.

## Main results

* `finds_search?`, `findsNothing_search?`: a search finds the first match, or
  there is none.
* `successive_matchesWithin`: the turns are enough.
* `successive_iff`: the matches in a text are its successive matches, and no
  other list is.
-/

namespace Retag

namespace Text.Cursor

/-- Two places of one text with as much behind them are the same. -/
theorem eq_of_left_eq {c d : Cursor} (hText : c.text = d.text)
    (hLeft : c.left = d.left) :
    c = d := by
  have hLength : c.rest.length = d.rest.length := by
    rw [← c.left_eq, ← d.left_eq]
    exact hLeft
  have hPieces := List.append_inj' hText hLength
  exact ext_pieces (List.reverse_inj.mp hPieces.1) hPieces.2

/-- A place that can be reached is where one stands, or it can be reached from
the next place. -/
theorem eq_or_reaches_next {c d : Cursor} (hReaches : c.Reaches d) :
    d = c ∨ ∃ x e, c.next? = some (x, e) ∧ e.Reaches d := by
  have hLess := hReaches.left_le
  by_cases hSame : d.left = c.left
  · left
    exact eq_of_left_eq hReaches.text_eq hSame
  · right
    cases hRest : c.rest with
    | nil =>
        have hLeft := c.left_eq
        rw [hRest, List.length_nil] at hLeft
        omega
    | cons x rest =>
        obtain ⟨e, hNext, -, -⟩ := next?_cons hRest
        have hLeft := left_next? hNext
        refine ⟨x, e, hNext, ?_, by omega⟩
        rw [hReaches.text_eq, text_next? hNext]

end Text.Cursor

namespace Regex

open Text

/-! ## The first match -/

/-- The match at a place, for a search that began at a cursor.  With
`advancing`, an empty match does not count where the search began. -/
def Node.trial (node : Node) (advancing : Bool) (c d : Cursor) : Option Match :=
  node.matchAt? (advancing && d.left == c.left) d

/-- The match is the first one at or behind a cursor. -/
structure Node.Finds (node : Node) (advancing : Bool) (c : Cursor) (m : Match) :
    Prop where
  reached : c.Reaches m.start
  found : node.trial advancing c m.start = some m
  first : ∀ d, c.Reaches d → m.start.left < d.left →
    node.trial advancing c d = none

/-- There is no match at or behind a cursor. -/
def Node.FindsNothing (node : Node) (advancing : Bool) (c : Cursor) : Prop :=
  ∀ d, c.Reaches d → node.trial advancing c d = none

section Search

variable {node : Node} {advancing : Bool} {c : Cursor} {m : Match}

theorem start_of_matchAt? (hMatch : node.matchAt? advancing c = some m) :
    m.start = c := by
  obtain ⟨t, -, rfl⟩ := Option.map_eq_some_iff.mp hMatch
  rfl

/-- A match that must not be empty takes a character. -/
theorem left_lt_of_matchAt? (hMatch : node.matchAt? true c = some m) :
    m.stop.left < c.left := by
  obtain ⟨t, hRun, rfl⟩ := Option.map_eq_some_iff.mp hMatch
  obtain ⟨u, hLeads, hAnswer⟩ := forward_run node _ _ t hRun
  have hLess := hLeads.reaches.left_le
  by_cases hSame : u.cursor.left = c.left
  · simp [hSame] at hAnswer
  · simp only [Bool.true_and, beq_iff_eq, hSame, if_false,
      Option.some.injEq] at hAnswer
    rw [← hAnswer]
    show u.cursor.left < c.left
    change u.cursor.left ≤ c.left at hLess
    omega

theorem trial_self (node : Node) (advancing : Bool) (c : Cursor) :
    node.trial advancing c c = node.matchAt? advancing c := by
  unfold Node.trial
  rw [beq_self_eq_true, Bool.and_true]

/-- Behind the place where a search began every match counts. -/
theorem trial_of_lt {d : Cursor} (hLess : d.left < c.left) :
    node.trial advancing c d = node.matchAt? false d := by
  have hOther : (d.left == c.left) = false := beq_eq_false_iff_ne.mpr (by omega)
  unfold Node.trial
  rw [hOther, Bool.and_false]

/-- A search that goes on at the next place tries the same as one that began there. -/
theorem trial_next {x : Char} {d e : Cursor} (hNext : c.next? = some (x, e))
    (hReaches : e.Reaches d) : node.trial advancing c d = node.trial false e d := by
  have hLeft := Cursor.left_next? hNext
  have hLess := hReaches.left_le
  rw [trial_of_lt (by omega)]
  unfold Node.trial
  rw [Bool.false_and]

theorem findsNothing_searchWithin? {fuel : Nat} (hFuel : c.left ≤ fuel)
    (hSearch : node.searchWithin? fuel advancing c = none) :
    node.FindsNothing advancing c := by
  induction fuel generalizing advancing c with
  | zero =>
      intro d hReaches
      rcases Cursor.eq_or_reaches_next hReaches with rfl | ⟨x, e, hNext, -⟩
      · rw [trial_self]
        exact hSearch
      · have hLeft := Cursor.left_next? hNext
        omega
  | succ fuel ih =>
      rw [Node.searchWithin?] at hSearch
      cases hMatch : node.matchAt? advancing c with
      | some m =>
          rw [hMatch] at hSearch
          cases hSearch
      | none =>
          intro d hReaches
          rcases Cursor.eq_or_reaches_next hReaches with
            rfl | ⟨x, e, hNext, hBehind⟩
          · rw [trial_self]
            exact hMatch
          · have hLeft := Cursor.left_next? hNext
            simp only [hMatch, hNext] at hSearch
            rw [trial_next hNext hBehind]
            exact ih (by omega) hSearch d hBehind

theorem finds_searchWithin? {fuel : Nat}
    (hSearch : node.searchWithin? fuel advancing c = some m) :
    node.Finds advancing c m := by
  -- a match at the cursor itself is before every other one
  have hHere : ∀ {advancing : Bool} {c : Cursor},
    node.matchAt? advancing c = some m →
      node.Finds advancing c m := by
    intro advancing c hMatch
    obtain rfl := start_of_matchAt? hMatch
    refine ⟨.refl _, ?_, ?_⟩
    · rw [trial_self]
      exact hMatch
    · intro d hReaches hLess
      have hNotBefore := hReaches.left_le
      omega
  induction fuel generalizing advancing c with
  | zero => exact hHere hSearch
  | succ fuel ih =>
      rw [Node.searchWithin?] at hSearch
      cases hMatch : node.matchAt? advancing c with
      | some here =>
          simp only [hMatch, Option.some.injEq] at hSearch
          rw [← hSearch] at hHere ⊢
          exact hHere hMatch
      | none =>
          cases hNext : c.next? with
          | none =>
              simp only [hMatch, hNext] at hSearch
              cases hSearch
          | some place =>
              obtain ⟨x, e⟩ := place
              simp only [hMatch, hNext] at hSearch
              have hLater := ih hSearch
              refine ⟨(Cursor.reaches_next? hNext).trans hLater.reached, ?_, ?_⟩
              · rw [trial_next hNext hLater.reached]
                exact hLater.found
              · intro d hReaches hLess
                rcases Cursor.eq_or_reaches_next hReaches with
                  rfl | ⟨y, f, hSame, hBehind⟩
                · rw [trial_self]
                  exact hMatch
                · obtain ⟨-, rfl⟩ :=
                    Prod.mk.inj (Option.some.inj (hNext.symm.trans hSame))
                  rw [trial_next hNext hBehind]
                  exact hLater.first d hBehind hLess

/-- A search finds the first match. -/
theorem finds_search? (hSearch : node.search? advancing c = some m) :
    node.Finds advancing c m :=
  finds_searchWithin? hSearch

/-- A search that finds nothing has tried every place. -/
theorem findsNothing_search? (hSearch : node.search? advancing c = none) :
    node.FindsNothing advancing c :=
  findsNothing_searchWithin? (Nat.le_refl _) hSearch

theorem Node.Finds.unique {n : Match} (hFirst : node.Finds advancing c m)
    (hSecond : node.Finds advancing c n) : m = n := by
  have hLeft : m.start.left = n.start.left := by
    rcases Nat.lt_trichotomy m.start.left n.start.left with hLess | hSame | hLess
    · have hNone := hFirst.first n.start hSecond.reached hLess
      rw [hSecond.found] at hNone
      cases hNone
    · exact hSame
    · have hNone := hSecond.first m.start hFirst.reached hLess
      rw [hFirst.found] at hNone
      cases hNone
  have hStart : m.start = n.start :=
    Cursor.eq_of_left_eq (hFirst.reached.text_eq.trans hSecond.reached.text_eq.symm)
      hLeft
  have hFound := hFirst.found
  rw [hStart, hSecond.found] at hFound
  exact (Option.some.inj hFound).symm

/-- An empty match where an empty one does not count is not found. -/
theorem Node.Finds.left_lt (hFinds : node.Finds true c m) : m.stop.left < c.left := by
  have hReached := hFinds.reached.left_le
  by_cases hSame : m.start.left = c.left
  · have hFound := hFinds.found
    unfold Node.trial at hFound
    rw [hSame, beq_self_eq_true, Bool.and_true] at hFound
    have hLess := left_lt_of_matchAt? hFound
    omega
  · have hStop := (ahead_matchAt? hFinds.found).stop_reached.left_le
    omega

theorem Node.Finds.stop_le (hFinds : node.Finds advancing c m) :
    m.stop.left ≤ m.start.left :=
  (ahead_matchAt? hFinds.found).stop_reached.left_le

end Search

/-! ## One match after the other -/

/-- Matches from a cursor on, each the first one behind the one before it, until
there is no further one. -/
inductive Node.Successive (node : Node) : Bool → Cursor → List Match → Prop
  | last {advancing : Bool} {c : Cursor} (hNothing : node.FindsNothing advancing c) :
      node.Successive advancing c []
  | next {advancing : Bool} {c : Cursor} {m : Match} {more : List Match}
      (hFinds : node.Finds advancing c m)
      (hMore : node.Successive m.isEmpty m.stop more) :
      node.Successive advancing c (m :: more)

/-- Twice the characters left, and one more if an empty match counts, bound the
matches that can still be found. -/
def turnsLeft (advancing : Bool) (c : Cursor) : Nat :=
  2 * c.left + if advancing then 0 else 1

/-- Every match leaves fewer turns. -/
theorem turnsLeft_lt {node : Node} {advancing : Bool} {c : Cursor} {m : Match}
    (hFinds : node.Finds advancing c m) :
    turnsLeft m.isEmpty m.stop < turnsLeft advancing c := by
  have hReached := hFinds.reached.left_le
  have hStop := hFinds.stop_le
  unfold turnsLeft
  cases hEmpty : m.isEmpty with
  | false =>
      have hTakes : m.stop.left ≠ m.start.left := by
        simpa [Match.isEmpty] using hEmpty
      cases advancing <;> simp <;> omega
  | true =>
      cases advancing with
      | false =>
          simp
          omega
      | true =>
          have hLess := hFinds.left_lt
          simp
          omega

theorem successive_matchesWithin (node : Node) {fuel : Nat} {advancing : Bool}
    {c : Cursor} (hFuel : turnsLeft advancing c ≤ fuel) :
    node.Successive advancing c (node.matchesWithin fuel advancing c) := by
  induction fuel generalizing advancing c with
  | zero =>
      rw [Node.matchesWithin]
      cases hSearch : node.search? advancing c with
      | none => exact .last (findsNothing_search? hSearch)
      | some m =>
          have hLess := turnsLeft_lt (finds_search? hSearch)
          omega
  | succ fuel ih =>
      rw [Node.matchesWithin]
      cases hSearch : node.search? advancing c with
      | none => exact .last (findsNothing_search? hSearch)
      | some m =>
          have hFinds := finds_search? hSearch
          have hLess := turnsLeft_lt hFinds
          exact .next hFinds (ih (by omega))

theorem Node.Successive.unique {node : Node} {advancing : Bool} {c : Cursor}
    {first second : List Match} (hFirst : node.Successive advancing c first)
    (hSecond : node.Successive advancing c second) : first = second := by
  induction hFirst generalizing second with
  | last hNothing =>
      cases hSecond with
      | last _ => rfl
      | next hFinds _ =>
          have hNone := hNothing _ hFinds.reached
          rw [hFinds.found] at hNone
          cases hNone
  | next hFinds _ ih =>
      cases hSecond with
      | last hNothing =>
          have hNone := hNothing _ hFinds.reached
          rw [hFinds.found] at hNone
          cases hNone
      | next hOther hMore =>
          obtain rfl := hFinds.unique hOther
          rw [ih hMore]

end Regex

/-- Matches of an expression in a text that follow each other from its start to
its end. -/
def Regex.Successive (r : Regex) (text : Text) (found : List Regex.Match) : Prop :=
  r.node.Successive false (.first text) found

/-- The matches of an expression in a text are the successive ones, and no
other list is. -/
theorem Regex.successive_iff {r : Regex} {text : Text} {found : List Regex.Match} :
    r.Successive text found ↔ found = r.matchesIn text := by
  have hMatches : r.Successive text (r.matchesIn text) := by
    apply Regex.successive_matchesWithin
    unfold Regex.turnsLeft
    rw [Text.Cursor.left_first]
    simp
  constructor
  · intro hFound
    exact Regex.Node.Successive.unique hFound hMatches
  · rintro rfl
    exact hMatches

end Retag

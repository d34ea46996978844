import Retag.Proofs.Table

/-!
# Matches go forward in their text

Whatever an expression is, the matcher only ever moves to places of the text
it was given, and a part of an expression goes on where it started or behind
it; look-behinds step back, but come back to where they started.  The groups
that are kept on the way have their ends in the same text.

The nodes are run with the rest of the work as a continuation, so the
property of a piece of work is about the spot at which it calls the
continuation: `Forward` says that this spot is reached from where the work
started.  Every way of putting work together keeps `Forward`, and the nodes
follow by induction.

## Main results

* `forward_run`: every node goes forward.
* `ordered_matchesWithin`: matches follow each other in the text.
* `matchAt?_of_mem_matchesWithin`: they are matches at their places.
-/

namespace Retag

namespace Text.Cursor

/-! ## Places of one text -/

/-- The second place is in the text of the first one and not before it. -/
structure Reaches (c d : Cursor) : Prop where
  text_eq : d.text = c.text
  left_le : d.left ≤ c.left

@[simp] theorem Reaches.refl (c : Cursor) : c.Reaches c := ⟨rfl, Nat.le_refl _⟩

theorem Reaches.trans {c d e : Cursor} (hFirst : c.Reaches d) (hSecond : d.Reaches e) :
    c.Reaches e :=
  ⟨hSecond.text_eq.trans hFirst.text_eq,
    Nat.le_trans hSecond.left_le hFirst.left_le⟩

/-- What is left at a later place. -/
theorem rest_of_reaches {c d : Cursor} (hReaches : c.Reaches d) :
    d.rest = c.rest.drop (c.left - d.left) := by
  have hText : d.before.reverse ++ d.rest = c.before.reverse ++ c.rest :=
    hReaches.text_eq
  have hLess := hReaches.left_le
  rw [c.left_eq, d.left_eq] at hLess
  have hLengths := congrArg List.length hText
  simp only [List.length_append, List.length_reverse] at hLengths
  have hDrop := congrArg (List.drop d.before.length) hText
  have hFirst : (d.before.reverse ++ d.rest).drop d.before.length = d.rest := by
    rw [← List.length_reverse, List.drop_left]
  have hSecond : (c.before.reverse ++ c.rest).drop d.before.length =
      c.rest.drop (c.left - d.left) := by
    have hSplit : d.before.length = c.before.reverse.length + (c.left - d.left) := by
      rw [List.length_reverse, c.left_eq, d.left_eq]
      omega
    rw [hSplit, ← List.drop_drop, List.drop_left]
  rw [← hFirst, hDrop, hSecond]

/-- The text up to a later place, and what is left there. -/
theorem upTo_append_rest {c d : Cursor} (hReaches : c.Reaches d) :
    c.upTo d ++ d.rest = c.rest := by
  rw [rest_of_reaches hReaches]
  exact List.take_append_drop _ c.rest

/-- What stands before a later place. -/
theorem before_of_reaches {c d : Cursor} (hReaches : c.Reaches d) :
    d.before.reverse = c.before.reverse ++ c.upTo d := by
  have hText : d.before.reverse ++ d.rest = c.before.reverse ++ c.rest :=
    hReaches.text_eq
  rw [← upTo_append_rest hReaches, ← List.append_assoc] at hText
  exact List.append_cancel_right hText

/-- The text up to a place is cut at any place before it. -/
theorem upTo_append {c d e : Cursor} (hFirst : c.Reaches d) (hSecond : d.Reaches e) :
    c.upTo e = c.upTo d ++ d.upTo e := by
  have hFirstLess := hFirst.left_le
  have hSecondLess := hSecond.left_le
  have hSplit : c.left - e.left = (c.left - d.left) + (d.left - e.left) := by omega
  rw [upTo, hSplit, List.take_add, ← rest_of_reaches hFirst]
  rfl

theorem upTo_ne_nil {c d : Cursor} (hLess : d.left < c.left) : c.upTo d ≠ [] := by
  have hLeft := c.left_eq
  intro hNil
  have hLength := congrArg List.length hNil
  rw [upTo, List.length_take, List.length_nil] at hLength
  omega

theorem reaches_next? {c d : Cursor} {x : Char} (hNext : c.next? = some (x, d)) :
    c.Reaches d := by
  have hLeft := left_next? hNext
  exact ⟨text_next? hNext, by omega⟩

theorem text_back? {c d : Cursor} {count : Nat} (hBack : c.back? count = some d) :
    d.text = c.text := by
  induction count generalizing c with
  | zero => rw [← Option.some.inj hBack]
  | succ count ih =>
      obtain ⟨before, rest, left, hLeft⟩ := c
      cases before with
      | nil => cases hBack
      | cons x before =>
          rw [ih hBack]
          simp [text]

theorem mem_text_of_mem_rest {c : Cursor} {x : Char} (hMem : x ∈ c.rest) :
    x ∈ c.text :=
  List.mem_append_right _ hMem

theorem mem_text_of_mem_upTo {c d : Cursor} {x : Char} (hMem : x ∈ c.upTo d) :
    x ∈ c.text :=
  mem_text_of_mem_rest (List.mem_of_mem_take hMem)

end Text.Cursor

namespace Regex

open Text

/-! ## Groups -/

/-- All ends of the groups are places of a text. -/
def Marks.Inside (marks : Marks) (text : Text) : Prop :=
  ∀ entry ∈ marks, entry.2.start.text = text ∧
    ∀ stop, entry.2.stop = some stop → stop.text = text

section Inside

variable {marks : Marks} {text : Text} {index : Nat}

theorem inside_nil (text : Text) : Marks.Inside [] text := by
  intro entry hMem
  cases hMem

theorem inside_put {mark : Mark} (hInside : marks.Inside text)
    (hStart : mark.start.text = text)
    (hStop : ∀ stop, mark.stop = some stop → stop.text = text) :
    (marks.put index mark).Inside text := by
  intro entry hMem
  rcases List.mem_cons.mp hMem with rfl | hMem
  · exact ⟨hStart, hStop⟩
  · exact hInside entry (List.mem_filter.mp hMem).1

theorem inside_enter {c : Cursor} (hInside : marks.Inside text)
    (hText : c.text = text) :
    (marks.enter index c).Inside text := by
  unfold Marks.enter
  cases hLookup : marks.lookup index with
  | none => exact inside_put hInside hText fun stop hStop => by cases hStop
  | some mark => exact inside_put hInside hText (hInside _ (mem_of_lookup hLookup)).2

theorem inside_leave {c : Cursor} (hInside : marks.Inside text)
    (hText : c.text = text) :
    (marks.leave index c).Inside text := by
  unfold Marks.leave
  cases hLookup : marks.lookup index with
  | none => exact hInside
  | some mark =>
      refine inside_put hInside (hInside _ (mem_of_lookup hLookup)).1
        fun stop hStop => ?_
      rw [← Option.some.inj hStop]
      exact hText

/-- The text of a group has characters of the text only. -/
theorem mem_text_of_mem_group {inner : Text} {x : Char} (hInside : marks.Inside text)
    (hGroup : marks.text? index = some inner) (hMem : x ∈ inner) : x ∈ text := by
  obtain ⟨⟨start, stop⟩, hSpan, rfl⟩ := Option.map_eq_some_iff.mp hGroup
  unfold Marks.span? at hSpan
  split at hSpan
  · rename_i first last hLookup
    split at hSpan
    · obtain ⟨rfl, rfl⟩ := Prod.mk.inj (Option.some.inj hSpan)
      rw [← (hInside _ (mem_of_lookup hLookup)).1]
      exact Cursor.mem_text_of_mem_upTo hMem
    · cases hSpan
  · cases hSpan

end Inside

/-! ## Work that goes forward -/

/-- The second spot can be reached from the first one. -/
structure Spot.Leads (s t : Spot) : Prop where
  reaches : s.cursor.Reaches t.cursor
  /-- Its groups are groups of the text. -/
  inside : s.marks.Inside s.cursor.text → t.marks.Inside s.cursor.text

@[simp] theorem Spot.Leads.refl (s : Spot) : s.Leads s := ⟨.refl _, id⟩

theorem Spot.Leads.trans {s t u : Spot} (hFirst : s.Leads t) (hSecond : t.Leads u) :
    s.Leads u := by
  refine ⟨hFirst.reaches.trans hSecond.reaches, fun hInside => ?_⟩
  have hBehind := hSecond.inside
  rw [hFirst.reaches.text_eq] at hBehind
  exact hBehind (hFirst.inside hInside)

/-- Work that calls its continuation at spots it can reach, if it answers. -/
def Forward (body : Cont → Cont) : Prop :=
  ∀ k s t, body k s = some t → ∃ u, s.Leads u ∧ k u = some t

section Forward

variable {body : Cont → Cont}

/-- Going on from where the work led, as the continuation of more work. -/
theorem Forward.andThen {k : Cont} {s t u : Spot} (hBody : Forward body)
    (hLeads : s.Leads u) (hRun : body k u = some t) :
    ∃ v, s.Leads v ∧ k v = some t := by
  obtain ⟨v, hBehind, hAnswer⟩ := hBody k u t hRun
  exact ⟨v, hLeads.trans hBehind, hAnswer⟩

theorem Forward.leads {s t : Spot} (hBody : Forward body)
    (hRun : body some s = some t) :
    s.Leads t := by
  obtain ⟨u, hLeads, hAnswer⟩ := hBody some s t hRun
  rw [← Option.some.inj hAnswer]
  exact hLeads

theorem orTry_eq_some {first : Option Spot} {second : Unit → Option Spot} {t : Spot}
    (hTry : orTry first second = some t) : first = some t ∨ second () = some t := by
  cases first with
  | none => exact .inr hTry
  | some s => exact .inl hTry

theorem forward_times (hBody : Forward body) (n : Nat) : Forward (times body n) := by
  induction n with
  | zero => exact fun k s t hRun => ⟨s, .refl s, hRun⟩
  | succ n ih =>
      intro k s t hRun
      obtain ⟨u, hLeads, hRest⟩ := hBody _ s t hRun
      exact ih.andThen hLeads hRest

theorem forward_once (hBody : Forward body) : Forward (once body) := by
  intro k s t hRun
  unfold once at hRun
  split at hRun
  · rename_i u hFirst
    exact ⟨u, hBody.leads hFirst, hRun⟩
  · cases hRun

/-- One more turn of a repetition: what follows is another repetition if the
turn took a character, and the rest of the work if it took none. -/
theorem Forward.turn {k : Cont} {loop : Cont → Cont} {s t : Spot}
    (hBody : Forward body) (hLoop : Forward loop)
    (hTurn : body (fun u => if u.cursor.left < s.cursor.left then loop k u else k u) s =
      some t) : ∃ u, s.Leads u ∧ k u = some t := by
  obtain ⟨u, hLeads, hRest⟩ := hBody _ s t hTurn
  split at hRest
  · exact hLoop.andThen hLeads hRest
  · exact ⟨u, hLeads, hRest⟩

/-- A repetition with no room left is the rest of the work. -/
theorem Forward.bounded {loop : Cont → Cont} {room : Option Nat}
    (hFull : room = some 0 → loop = id) (hRoom : room ≠ some 0 → Forward loop) :
    Forward loop := by
  by_cases hNone : room = some 0
  · intro k s t hRun
    rw [hFull hNone] at hRun
    exact ⟨s, .refl s, hRun⟩
  · exact hRoom hNone

theorem forward_greedy (hBody : Forward body) (fuel : Nat) (room : Option Nat) :
    Forward fun k => greedy body k fuel room := by
  induction fuel generalizing room with
  | zero =>
      refine .bounded (by rintro rfl; rfl)
        fun (hRoom : room ≠ some 0) k s t hRun => ?_
      change greedy body k 0 room s = some t at hRun
      rw [greedy.eq_2 body k room s hRoom] at hRun
      rcases orTry_eq_some hRun with hTurn | hStop
      · exact hBody k s t hTurn
      · exact ⟨s, .refl s, hStop⟩
  | succ fuel ih =>
      refine .bounded (by rintro rfl; rfl)
        fun (hRoom : room ≠ some 0) k s t hRun => ?_
      change greedy body k (fuel + 1) room s = some t at hRun
      rw [greedy.eq_3 body k room s fuel hRoom] at hRun
      rcases orTry_eq_some hRun with hTurn | hStop
      · exact hBody.turn (ih _) hTurn
      · exact ⟨s, .refl s, hStop⟩

theorem forward_lazy (hBody : Forward body) (fuel : Nat) (room : Option Nat) :
    Forward fun k => lazy body k fuel room := by
  induction fuel generalizing room with
  | zero =>
      refine .bounded (by rintro rfl; rfl)
        fun (hRoom : room ≠ some 0) k s t hRun => ?_
      change lazy body k 0 room s = some t at hRun
      rw [lazy.eq_2 body k room s hRoom] at hRun
      rcases orTry_eq_some hRun with hStop | hTurn
      · exact ⟨s, .refl s, hStop⟩
      · exact hBody k s t hTurn
  | succ fuel ih =>
      refine .bounded (by rintro rfl; rfl)
        fun (hRoom : room ≠ some 0) k s t hRun => ?_
      change lazy body k (fuel + 1) room s = some t at hRun
      rw [lazy.eq_3 body k room s fuel hRoom] at hRun
      rcases orTry_eq_some hRun with hStop | hTurn
      · exact ⟨s, .refl s, hStop⟩
      · exact hBody.turn (ih _) hTurn

theorem forward_possessive (hBody : Forward body) (fuel : Nat) (room : Option Nat) :
    Forward fun k => possessive body k fuel room := by
  induction fuel generalizing room with
  | zero =>
      refine .bounded (by rintro rfl; rfl)
        fun (hRoom : room ≠ some 0) k s t hRun => ?_
      change possessive body k 0 room s = some t at hRun
      rw [possessive.eq_2 body k room s hRoom] at hRun
      split at hRun
      · exact ⟨s, .refl s, hRun⟩
      · rename_i u hFirst
        exact ⟨u, hBody.leads hFirst, hRun⟩
  | succ fuel ih =>
      refine .bounded (by rintro rfl; rfl)
        fun (hRoom : room ≠ some 0) k s t hRun => ?_
      change possessive body k (fuel + 1) room s = some t at hRun
      rw [possessive.eq_3 body k room s fuel hRoom] at hRun
      split at hRun
      · exact ⟨s, .refl s, hRun⟩
      · rename_i u hFirst
        have hLeads := hBody.leads hFirst
        split at hRun
        · exact (ih _).andThen hLeads hRun
        · exact ⟨u, hLeads, hRun⟩

theorem forward_repetition (hBody : Forward body) (mode : Mode) (least : Nat)
    (room : Option Nat) : Forward (repetition mode least room body) := by
  intro k s t hRun
  cases mode with
  | greedy =>
      obtain ⟨u, hLeads, hRest⟩ := forward_times hBody least _ s t hRun
      exact (forward_greedy hBody _ room).andThen hLeads hRest
  | lazy =>
      obtain ⟨u, hLeads, hRest⟩ := forward_times hBody least _ s t hRun
      exact (forward_lazy hBody _ room).andThen hLeads hRest
  | possessive =>
      obtain ⟨u, hLeads, hRest⟩ :=
        forward_times (forward_once hBody) least _ s t hRun
      exact (forward_possessive hBody _ room).andThen hLeads hRest

theorem reaches_takeText {folding : Folding} {text : Text} {c d : Cursor}
    (hTake : takeText folding text c = some d) : c.Reaches d := by
  induction text generalizing c with
  | nil =>
      rw [← Option.some.inj hTake]
      exact .refl c
  | cons x text ih =>
      unfold takeText at hTake
      split at hTake
      · rename_i y e hNext
        split at hTake
        · exact (Cursor.reaches_next? hNext).trans (ih hTake)
        · cases hTake
      · cases hTake

theorem leads_of_reaches {s : Spot} {c : Cursor} (hReaches : s.cursor.Reaches c) :
    s.Leads ⟨c, s.marks⟩ := ⟨hReaches, id⟩

/-- Every node goes forward. -/
theorem forward_run (node : Node) : Forward node.run := by
  induction node with
  | done => exact fun k s t hRun => ⟨s, .refl s, hRun⟩
  | one set =>
      intro k s t hRun
      unfold Node.run at hRun
      split at hRun
      · rename_i x c hNext
        split at hRun
        · exact ⟨_, leads_of_reaches (Cursor.reaches_next? hNext), hRun⟩
        · cases hRun
      · cases hRun
  | cat a b iha ihb =>
      intro k s t hRun
      obtain ⟨u, hLeads, hRest⟩ := iha _ s t hRun
      exact ihb.andThen hLeads hRest
  | alt a b iha ihb =>
      intro k s t hRun
      rcases orTry_eq_some hRun with hFirst | hSecond
      · exact iha k s t hFirst
      · exact ihb k s t hSecond
  | place p =>
      intro k s t hRun
      unfold Node.run at hRun
      split at hRun
      · exact ⟨s, .refl s, hRun⟩
      · cases hRun
  | many mode least room body ih => exact forward_repetition ih mode least room
  | group index body ih =>
      intro k s t hRun
      obtain ⟨u, hLeads, hRest⟩ := ih _ _ t hRun
      have hReaches : s.cursor.Reaches u.cursor := hLeads.reaches
      have hInside : s.marks.Inside s.cursor.text → u.marks.Inside s.cursor.text :=
        fun hStart => hLeads.inside (inside_enter hStart rfl)
      exact ⟨⟨u.cursor, u.marks.leave index u.cursor⟩,
        ⟨hReaches, fun hStart => inside_leave (hInside hStart) hReaches.text_eq⟩,
        hRest⟩
  | atomic body ih => exact forward_once ih
  | look back negated body ih =>
      intro k s t hRun
      unfold Node.run at hRun
      split at hRun
      · split at hRun
        · exact ⟨s, .refl s, hRun⟩
        · cases hRun
      · rename_i c hBack
        split at hRun
        · rename_i u hLook
          split at hRun
          · cases hRun
          -- the body ran from a place further back, but in the same text
          · have hLeads := ih.leads hLook
            have hInside := hLeads.inside
            simp only [Cursor.text_back? hBack] at hInside
            exact ⟨⟨s.cursor, u.marks⟩, ⟨.refl _, hInside⟩, hRun⟩
        · split at hRun
          · exact ⟨s, .refl s, hRun⟩
          · cases hRun
  | again index folding =>
      intro k s t hRun
      unfold Node.run at hRun
      split at hRun
      · cases hRun
      · split at hRun
        · rename_i c hTake
          exact ⟨_, leads_of_reaches (reaches_takeText hTake), hRun⟩
        · cases hRun
  | whenSet index yes no ihYes ihNo =>
      intro k s t hRun
      unfold Node.run at hRun
      split at hRun
      · exact ihYes k s t hRun
      · exact ihNo k s t hRun

end Forward

/-! ## Matches -/

/-- A match at or behind a place of a text. -/
structure Match.Ahead (c : Cursor) (m : Match) : Prop where
  /-- It starts at or behind the place. -/
  start_reached : c.Reaches m.start
  /-- It ends where it starts or behind it. -/
  stop_reached : m.start.Reaches m.stop
  /-- Its groups are groups of the text. -/
  inside : m.marks.Inside c.text

/-- Matches behind a place, each at or behind the end of the one before. -/
inductive Ordered : Cursor → List Match → Prop where
  | nil (c : Cursor) : Ordered c []
  | cons {c : Cursor} {m : Match} {more : List Match} (hAhead : m.Ahead c)
      (hMore : Ordered m.stop more) : Ordered c (m :: more)

section Matches

variable {node : Node} {advancing : Bool} {c : Cursor} {m : Match}

theorem ahead_matchAt? (hMatch : node.matchAt? advancing c = some m) : m.Ahead c := by
  obtain ⟨t, hRun, rfl⟩ := Option.map_eq_some_iff.mp hMatch
  obtain ⟨u, hLeads, hAnswer⟩ := forward_run node _ _ t hRun
  split at hAnswer
  · cases hAnswer
  · rw [← Option.some.inj hAnswer]
    exact ⟨.refl c, hLeads.reaches, hLeads.inside (inside_nil _)⟩

theorem Match.Ahead.trans {d : Cursor} (hReaches : c.Reaches d) (hAhead : m.Ahead d) :
    m.Ahead c :=
  ⟨hReaches.trans hAhead.start_reached, hAhead.stop_reached, by
    rw [← hReaches.text_eq]
    exact hAhead.inside⟩

theorem ahead_searchWithin? {fuel : Nat}
    (hSearch : node.searchWithin? fuel advancing c = some m) : m.Ahead c := by
  induction fuel generalizing advancing c with
  | zero => exact ahead_matchAt? hSearch
  | succ fuel ih =>
      unfold Node.searchWithin? at hSearch
      split at hSearch
      · rename_i found hMatch
        rw [← Option.some.inj hSearch]
        exact ahead_matchAt? hMatch
      · split at hSearch
        · rename_i x d hNext
          exact (ih hSearch).trans (Cursor.reaches_next? hNext)
        · cases hSearch

theorem ahead_search? (hSearch : node.search? advancing c = some m) : m.Ahead c :=
  ahead_searchWithin? hSearch

/-- Matches follow each other in the text. -/
theorem ordered_matchesWithin (node : Node) (fuel : Nat) (advancing : Bool)
    (c : Cursor) :
    Ordered c (node.matchesWithin fuel advancing c) := by
  induction fuel generalizing advancing c with
  | zero => exact .nil c
  | succ fuel ih =>
      unfold Node.matchesWithin
      cases hSearch : node.search? advancing c with
      | none => exact .nil c
      | some found => exact .cons (ahead_search? hSearch) (ih _ _)

theorem ordered_matchesIn (node : Node) (text : Text) :
    Ordered (.first text) (node.matchesIn text) :=
  ordered_matchesWithin node _ false _

theorem Match.Ahead.text_stop (hAhead : m.Ahead c) : m.stop.text = c.text :=
  hAhead.stop_reached.text_eq.trans hAhead.start_reached.text_eq

theorem matchAt?_of_searchWithin? {fuel : Nat}
    (hSearch : node.searchWithin? fuel advancing c = some m) :
    ∃ advancing, node.matchAt? advancing m.start = some m := by
  have hHere : ∀ {advancing c}, node.matchAt? advancing c = some m →
      ∃ advancing, node.matchAt? advancing m.start = some m := by
    intro advancing c hMatch
    obtain ⟨t, hRun, rfl⟩ := Option.map_eq_some_iff.mp hMatch
    exact ⟨advancing, hMatch⟩
  induction fuel generalizing advancing c with
  | zero => exact hHere hSearch
  | succ fuel ih =>
      unfold Node.searchWithin? at hSearch
      split at hSearch
      · rename_i found hMatch
        rw [Option.some.inj hSearch] at hMatch
        exact hHere hMatch
      · split at hSearch
        · exact ih hSearch
        · cases hSearch

/-- The matches in a text are matches at some of its places. -/
theorem matchAt?_of_mem_matchesWithin {fuel : Nat}
    (hMem : m ∈ node.matchesWithin fuel advancing c) :
    ∃ advancing, node.matchAt? advancing m.start = some m := by
  induction fuel generalizing advancing c with
  | zero => cases hMem
  | succ fuel ih =>
      unfold Node.matchesWithin at hMem
      cases hSearch : node.search? advancing c with
      | none =>
          rw [hSearch] at hMem
          cases hMem
      | some found =>
          rw [hSearch] at hMem
          rcases List.mem_cons.mp hMem with rfl | hMore
          · exact matchAt?_of_searchWithin? hSearch
          · exact ih hMore

end Matches

end Regex

end Retag

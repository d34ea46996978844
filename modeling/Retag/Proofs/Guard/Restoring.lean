import Retag.Proofs.Computation
import Retag.Proofs.Guard.Decoding
import Retag.Proofs.Regex.Forward
import Retag.Template

/-!
# Where sentinels are unknown

A guard looks up what its expression finds.  The expression is an alternative
for every sentinel, so each match is one of them, whatever the sentinels are:
one may be empty, begin another one, or stand for several characters.  The
text of a match is then a key of the table, and characters are put back in
every text.

A table without entries is different.  It leaves an expression without
alternatives, which is not one that finds nothing: it finds the empty text at
every place, and the empty text is no sentinel.  Such a guard removes nothing
from any text and puts back nothing either, because it fails.

## Main results

* `text_mem_sentinels`: what the expression of a guard finds.
* `restore_of_entries_nil`, `strip_of_entries_nil`: guards without entries.
* `restoring_needs_an_entry`: all guards, and the templates that use them.
-/

namespace Retag

open Regex Text Log

namespace Guard

variable {g : Guard}

/-! ## What the expression finds -/

/-- Alternatives go on behind one of their texts. -/
theorem mem_of_run_anyOf {texts : List Text} (hTexts : texts ≠ []) {k : Cont}
    {s t : Spot} (hRun : (anyOf texts).run k s = some t) :
    ∃ text ∈ texts, text <+: s.cursor.rest ∧
    k ⟨s.cursor.past text.length, s.marks⟩ = some t := by
  have hExactly : ∀ text, (exactly text).run k s = some t →
      text <+: s.cursor.rest ∧
      k ⟨s.cursor.past text.length, s.marks⟩ = some t := by
    intro text hText
    rw [run_exactly] at hText
    unfold expecting at hText
    split at hText
    · rename_i hPrefix
      exact ⟨List.isPrefixOf_iff_prefix.mp hPrefix, hText⟩
    · cases hText
  induction texts with
  | nil => exact absurd rfl hTexts
  | cons text texts ih =>
      by_cases hLast : texts = []
      · subst hLast
        exact ⟨text, List.mem_cons_self, hExactly text hRun⟩
      · have hEither : (exactly text).run k s = some t ∨
            (anyOf texts).run k s = some t := by
          obtain ⟨other, more, rfl⟩ := List.exists_cons_of_ne_nil hLast
          exact orTry_eq_some hRun
        cases hEither with
        | inl hFirst => exact ⟨text, List.mem_cons_self, hExactly text hFirst⟩
        | inr hLater =>
            obtain ⟨found, hMem, hFound⟩ := ih hLast hLater
            exact ⟨found, List.mem_cons_of_mem _ hMem, hFound⟩

/-- A match ends where the node has come to, whatever is asked of the end. -/
theorem run_of_mem_matchesIn {node : Node} {text : Text} {m : Match}
    (hMem : m ∈ node.matchesIn text) :
    ∃ (k : Cont) (t : Spot), node.run k ⟨m.start, []⟩ = some t ∧
    m.stop = t.cursor ∧
      ∀ s, k s = some t → t = s := by
  obtain ⟨advancing, hMatch⟩ := matchAt?_of_mem_matchesWithin hMem
  obtain ⟨t, hRun, hSame⟩ := Option.map_eq_some_iff.mp hMatch
  refine ⟨_, t, hRun, by rw [← hSame], ?_⟩
  intro s hEnd
  split at hEnd
  · cases hEnd
  · exact (Option.some.inj hEnd).symm

/-- The expression of a guard with entries finds sentinels and nothing else. -/
theorem text_mem_sentinels (hEntries : g.entries ≠ []) {text : Text} {m : Match}
    (hMem : m ∈ g.finder.matchesIn text) : m.text ∈ g.sentinels := by
  obtain ⟨k, t, hRun, hStop, hEnds⟩ := run_of_mem_matchesIn hMem
  obtain ⟨s, hSentinel, ⟨after, hAfter⟩, hEnd⟩ :=
    mem_of_run_anyOf (sentinels_ne hEntries) hRun
  have hText : m.text = s := by
    rw [Match.text, hStop, hEnds _ hEnd, Cursor.upTo_past, ← hAfter, List.take_left]
  rw [hText]
  exact hSentinel

/-! ## Replacing and removing -/

/-- Matches are replaced if each of them has a replacement. -/
theorem replaceFrom_total {replacement : Text → Except GuardFault Text}
    {found : List Match}
    (hFound : ∀ m ∈ found, ∃ inserted, replacement m.text = .ok inserted)
    (c : Cursor) :
    ∃ replaced, replaceFrom replacement c found = .ok replaced := by
  induction found generalizing c with
  | nil => exact ⟨c.rest, rfl⟩
  | cons m more ih =>
      obtain ⟨inserted, hInserted⟩ := hFound m List.mem_cons_self
      obtain ⟨behind, hBehind⟩ :=
        ih (fun n hMem => hFound n (List.mem_cons_of_mem _ hMem)) m.stop
      exact ⟨c.upTo m.start ++ inserted ++ behind,
        by rw [replaceFrom, hInserted, hBehind]; rfl⟩

/-- Characters are put back in every text by a guard with entries. -/
theorem restore_total (hEntries : g.entries ≠ []) (text : Text) :
    ∃ restored, g.restore text = .ok restored := by
  apply replaceFrom_total
  intro m hMem
  exact ⟨_, g.meaning_of_mem (text_mem_sentinels hEntries hMem)⟩

/-- The text between matches is a part of the text that they are in. -/
theorem withoutMatches_sublist {c : Cursor} {found : List Match}
    (hOrdered : Ordered c found) :
    (withoutMatches c found).Sublist c.rest := by
  induction hOrdered with
  | nil c => exact List.Sublist.refl _
  | @cons c m more hAhead hMore ih =>
      have hBehind : m.stop.rest.Sublist m.start.rest := by
        rw [← Cursor.upTo_append_rest hAhead.stop_reached]
        exact List.sublist_append_right _ _
      rw [withoutMatches, ← Cursor.upTo_append_rest hAhead.start_reached]
      exact (List.Sublist.refl _).append (ih.trans hBehind)

theorem strip_sublist (g : Guard) (text : Text) : (g.strip text).Sublist text :=
  withoutMatches_sublist (ordered_matchesIn g.finder text)

/-- Empty matches take nothing away. -/
theorem withoutMatches_of_empty {c : Cursor} {found : List Match}
    (hOrdered : Ordered c found)
    (hEmpty : ∀ m ∈ found, m.text = []) : withoutMatches c found = c.rest := by
  induction hOrdered with
  | nil c => rfl
  | @cons c m more hAhead hMore ih =>
      have hSame : m.stop.rest = m.start.rest := by
        have hSplit := Cursor.upTo_append_rest hAhead.stop_reached
        have hText : m.start.upTo m.stop = [] := hEmpty m List.mem_cons_self
        rw [hText, List.nil_append] at hSplit
        exact hSplit
      rw [withoutMatches, ih fun n hMem => hEmpty n (List.mem_cons_of_mem _ hMem),
        hSame, Cursor.upTo_append_rest hAhead.start_reached]

/-! ## Guards without entries -/

/-- Nothing is expected of a match if there is no sentinel. -/
theorem finder_of_entries_nil (hEntries : g.entries = []) : g.finder = .done := by
  have hNone : g.sentinels = [] := by
    apply List.eq_nil_iff_forall_not_mem.mpr
    intro s hMem
    obtain ⟨c, hEntry⟩ := g.mem_sentinels.mp hMem
    rw [hEntries] at hEntry
    cases hEntry
  rw [finder, hNone]
  rfl

/-- A guard without entries fails on every text: what it finds first is the
empty text before the first character. -/
theorem restore_of_entries_nil (hEntries : g.entries = []) (text : Text) :
    g.restore text = .error (.unknownSentinel []) := by
  have hFirst : Node.done.search? false (.first text) =
      some ⟨.first text, .first text, []⟩ := by
    cases text <;> rfl
  have hText : (Match.mk (.first text) (.first text) []).text = [] := by
    rw [Match.text, Cursor.upTo, Nat.sub_self, List.take_zero]
  have hMeaning : g.meaning [] = .error (.unknownSentinel []) := by
    rw [meaning, meanings, hEntries]
    rfl
  rw [restore, finder_of_entries_nil hEntries, Node.matchesIn, Node.matchesWithin,
    hFirst]
  simp only [replaceFrom, hText, hMeaning]
  rfl

/-- A guard without entries removes nothing. -/
theorem strip_of_entries_nil (hEntries : g.entries = []) (text : Text) :
    g.strip text = text := by
  apply withoutMatches_of_empty (ordered_matchesIn g.finder text)
  intro m hMem
  rw [finder_of_entries_nil hEntries] at hMem
  obtain ⟨k, t, hRun, hStop, hEnds⟩ := run_of_mem_matchesIn hMem
  rw [Match.text, hStop, hEnds _ hRun, Cursor.upTo, Nat.sub_self, List.take_zero]

/-- The table of a guard is empty only if no pairs were given. -/
theorem entries_eq_nil_iff {pairs : List (Text × Text)}
    (hMade : ofPairs pairs = .ok g) :
    g.entries = [] ↔ pairs = [] := by
  have hPut : ∀ (c : Char) (s : Text) entries, putEntry c s entries ≠ [] := by
    intro c s entries
    cases entries with
    | nil => exact List.cons_ne_nil _ _
    | cons entry entries =>
        unfold putEntry
        split <;> exact List.cons_ne_nil _ _
  have hAdd : ∀ (pairs : List (Text × Text)) entries,
    ofPairs.add entries pairs = .ok g →
      (g.entries = [] ↔ entries = [] ∧ pairs = []) := by
    intro pairs
    induction pairs with
    | nil =>
        intro entries hGuard
        rw [← Except.ok.inj hGuard]
        simp
    | cons pair pairs ih =>
        intro entries hGuard
        unfold ofPairs.add at hGuard
        split at hGuard
        · rename_i hNil
          cases hNil
        · rename_i c s rest hCons
          obtain ⟨rfl, rfl⟩ := List.cons.inj hCons
          rw [ih _ hGuard]
          simp [hPut]
        · cases hGuard
  rw [hAdd pairs [] hMade]
  simp

end Guard

/-! ## Templates -/

namespace Template

variable {Program : Type}

/-- What the engine answers to a rendering, compiling included. -/
def engineAnswer (t : Template Program) (call : Call) (j : Journal) :
    Except Failure Value := do
  let program ← (t.programOr j).1
  (t.engine.engine.render program call).answer

/-- The answer of a rendering is the engine's, with the characters put back. -/
theorem answer_render (t : Template Program) (call : Call) (j : Journal) :
    (t.render call j).answer = t.restored (t.engineAnswer call j) := by
  unfold render engineAnswer
  generalize t.programOr j = work
  obtain ⟨answer, after⟩ := work
  cases answer with
  | error e => rfl
  | ok program => rfl

end Template

/-- Guards from any pairs that are accepted: any number of characters, and any
sentinels, empty or equal ones and such that begin another one.

If there are pairs, everything that the expression of the guard finds has a
meaning in its table.  Characters are put back in every text, removing
sentinels takes pieces out of it, and a rendering with the guard fails only
where the engine does.

If there are none, no text is changed by removing sentinels, but putting
characters back fails for every text, and so does every rendering with the guard. -/
theorem restoring_needs_an_entry {Program : Type} {pairs : List (Text × Text)}
    {g : Guard} (hAccepted : Guard.ofPairs pairs = .ok g) :
    (pairs ≠ [] →
      (∀ text, ∀ m ∈ g.finder.matchesIn text, ∃ c,
        g.meanings.lookup m.text = some c) ∧
      (∀ text, (g.strip text).Sublist text) ∧
      ∃ put : Text → Text, (∀ text, g.restore text = .ok (put text)) ∧
        ∀ (t : Template Program) call j, t.guard = g →
          (t.render call j).answer = (t.engineAnswer call j).map fun v =>
            put v.plain.toList) ∧
    (pairs = [] →
      (∀ text, g.strip text = text ∧
        g.restore text = .error (.unknownSentinel [])) ∧
        ∀ (t : Template Program) call j, t.guard = g →
          (t.render call j).answer = t.engineAnswer call j >>= fun _ =>
            .error (.unknownSentinel [])) := by
  have hEmpty := Guard.entries_eq_nil_iff hAccepted
  have hRestored : ∀ (t : Template Program) call j, t.guard = g →
      (t.render call j).answer =
        t.engineAnswer call j >>= fun v =>
          orFail .ofGuard (g.restore v.plain.toList) := by
    intro t call j hGuard
    rw [t.answer_render, Template.restored, hGuard]
  constructor
  · intro hPairs
    have hEntries : g.entries ≠ [] := fun hNil => hPairs (hEmpty.mp hNil)
    obtain ⟨put, hPut⟩ := Classical.skolem.mp (Guard.restore_total hEntries)
    refine ⟨?_, g.strip_sublist, put, hPut, ?_⟩
    · intro text m hMem
      have hMeaning := g.meaning_of_mem (Guard.text_mem_sentinels hEntries hMem)
      unfold Guard.meaning at hMeaning
      split at hMeaning
      · rename_i c hLookup
        exact ⟨c, hLookup⟩
      · cases hMeaning
    · intro t call j hGuard
      rw [hRestored t call j hGuard]
      cases t.engineAnswer call j with
      | error e => rfl
      | ok v =>
          show orFail .ofGuard (g.restore v.plain.toList) = _
          rw [hPut]
          rfl
  · intro hNone
    have hEntries := hEmpty.mpr hNone
    refine ⟨fun text => ⟨Guard.strip_of_entries_nil hEntries text,
      Guard.restore_of_entries_nil hEntries text⟩, ?_⟩
    intro t call j hGuard
    rw [hRestored t call j hGuard]
    cases t.engineAnswer call j with
    | error e => rfl
    | ok v =>
        show orFail .ofGuard (g.restore v.plain.toList) = _
        rw [Guard.restore_of_entries_nil hEntries]
        rfl

/-- An empty sentinel, which is found between any two characters, one that two
characters have, and one that begins another one. -/
theorem restoring_needs_an_entry_empty_sentinel :
    let pairs : List (Text × Text) := [("a".toList, []), ("b".toList, ".*".toList),
      ("c".toList, ".*".toList), ("d".toList, ".".toList)]
    ∃ g, Guard.ofPairs pairs = .ok g ∧ pairs ≠ [] ∧
      (∀ m ∈ g.finder.matchesIn "x.*.".toList, ∃ c,
        g.meanings.lookup m.text = some c) ∧
      ∃ put : Text → Text, (∀ text, g.restore text = .ok (put text)) ∧
        put "x.*.".toList = "axcda".toList := by
  intro pairs
  let g : Guard :=
    ⟨[('a', []), ('b', ".*".toList), ('c', ".*".toList), ('d', ".".toList)]⟩
  have hAccepted : Guard.ofPairs pairs = .ok g := rfl
  have hPairs : pairs ≠ [] := List.cons_ne_nil _ _
  obtain ⟨hFound, -, put, hPut, -⟩ :=
    (@restoring_needs_an_entry Unit pairs g hAccepted).1 hPairs
  have hSentinels : g.sentinels = [".*".toList, ".".toList, []] := by
    simp [g, Guard.sentinels, Guard.meanings, putEntry, List.mergeSort]
  have hRestored : g.restore "x.*.".toList = .ok "axcda".toList := by
    rw [Guard.restore, Guard.finder, hSentinels]
    exact ok_of_toOption (by decide +kernel)
  refine ⟨g, hAccepted, hPairs, hFound _, put, hPut, ?_⟩
  exact Except.ok.inj ((hPut _).symm.trans hRestored)

/-- A guard that is accepted, without any pair, puts back nothing. -/
theorem no_entries_no_restoring :
    ¬ ∀ (pairs : List (Text × Text)) (g : Guard), Guard.ofPairs pairs = .ok g →
      ∀ text, ∃ restored, g.restore text = .ok restored := by
  intro hAll
  obtain ⟨restored, hRestored⟩ := hAll [] ⟨[]⟩ rfl "a".toList
  rw [Guard.restore_of_entries_nil rfl] at hRestored
  cases hRestored

end Retag

import Retag.Proofs.Regex.Embedding
import Retag.Proofs.Regex.Outcomes
import Retag.Proofs.Tag.Matcher
import Retag.Proofs.Tag.Pieces

/-!
# Fragments that can be embedded

A text that compiles on its own, without groups, and is one sequence of items
can be put into a longer expression: there it is read as the same terms, and
they compile to the same nodes.  That it is one sequence excludes two things.
A bar at the top level would divide the longer expression, and not only the
fragment; flags for the whole expression would hold for what surrounds it.

Without groups nothing in the fragment depends on how many groups stand before
it.  In particular the width of a look-behind is known without them, so a
fragment with a look-behind compiles in its surroundings as it does alone.

## Main results

* `bar_or_flags_of_compile`: nothing else is excluded.
* `Embeddable.reading`: the reader comes calmly to the end of such a text.
* `Embeddable.embedded`: it is read in its surroundings as the parts of its node.
-/

namespace Retag

open Regex Text

namespace Regex

/-! ## Terms without groups -/

/-- The width of a term without groups does not depend on groups. -/
theorem width_of_ungrouped {t : Term} (hTerm : t.isUngrouped = true)
    (groups other : Nat → Width) :
    t.width groups = t.width other := by
  induction t with
  | cat a b iha ihb =>
      simp only [Term.isUngrouped, Bool.and_eq_true] at hTerm
      simp only [Term.width, iha hTerm.1, ihb hTerm.2]
  | alt a b iha ihb =>
      simp only [Term.isUngrouped, Bool.and_eq_true] at hTerm
      simp only [Term.width, iha hTerm.1, ihb hTerm.2]
  | many mode least greatest body ih => simp only [Term.width, ih hTerm]
  | group index on off body ih =>
      simp only [Term.isUngrouped, Bool.and_eq_true] at hTerm
      exact ih hTerm.2
  | atomic body ih => exact ih hTerm
  | look behind negated body ih => rfl
  | again index => cases hTerm
  | whenSet index yes no ihYes ihNo => cases hTerm
  | empty => rfl
  | char code => rfl
  | notChar code => rfl
  | any => rfl
  | set negated entries => rfl
  | anchor place => rfl

/-- Nor does what it compiles to. -/
theorem compile_of_ungrouped {t : Term} (hTerm : t.isUngrouped = true)
    (groups other : Nat → Width)
    (flags : Flags) : t.compile groups flags = t.compile other flags := by
  induction t generalizing flags with
  | cat a b iha ihb =>
      simp only [Term.isUngrouped, Bool.and_eq_true] at hTerm
      simp only [Term.compile, iha hTerm.1, ihb hTerm.2]
  | alt a b iha ihb =>
      simp only [Term.isUngrouped, Bool.and_eq_true] at hTerm
      simp only [Term.compile, iha hTerm.1, ihb hTerm.2]
  | many mode least greatest body ih => simp only [Term.compile, ih hTerm]
  | group index on off body ih =>
      simp only [Term.isUngrouped, Bool.and_eq_true] at hTerm
      simp only [Term.compile, ih hTerm.2]
  | atomic body ih =>
      have hBody : body.isUngrouped = true := hTerm
      simp only [Term.compile, ih hBody]
  | look behind negated body ih =>
      have hBody : body.isUngrouped = true := hTerm
      simp only [Term.compile, ih hBody, width_of_ungrouped hBody groups other]
  | again index => cases hTerm
  | whenSet index yes no ihYes ihNo => cases hTerm
  | empty => simp only [Term.compile]
  | char code => simp only [Term.compile]
  | notChar code => simp only [Term.compile]
  | any => simp only [Term.compile]
  | set negated entries => simp only [Term.compile]
  | anchor place => simp only [Term.compile]

/-- What a term without groups compiles to has none. -/
theorem isUngrouped_of_compile {t : Term} (hTerm : t.isUngrouped = true)
    {groups : Nat → Width} {flags : Flags} {node : Node}
    (hCompile : t.compile groups flags = .ok node) :
    node.isUngrouped = true := by
  induction t generalizing flags node with
  | cat a b iha ihb =>
      rw [Term.isUngrouped, Bool.and_eq_true] at hTerm
      rw [Term.compile] at hCompile
      obtain ⟨first, hFirst, hRest⟩ := bind_eq_ok hCompile
      obtain ⟨second, hSecond, hNode⟩ := bind_eq_ok hRest
      cases hNode
      exact Bool.and_eq_true_iff.mpr ⟨iha hTerm.1 hFirst, ihb hTerm.2 hSecond⟩
  | alt a b iha ihb =>
      rw [Term.isUngrouped, Bool.and_eq_true] at hTerm
      rw [Term.compile] at hCompile
      obtain ⟨first, hFirst, hRest⟩ := bind_eq_ok hCompile
      obtain ⟨second, hSecond, hNode⟩ := bind_eq_ok hRest
      cases hNode
      exact Bool.and_eq_true_iff.mpr ⟨iha hTerm.1 hFirst, ihb hTerm.2 hSecond⟩
  | many mode least greatest body ih =>
      rw [Term.compile] at hCompile
      split at hCompile
      · cases hCompile
      · obtain ⟨inner, hInner, hNode⟩ := bind_eq_ok hCompile
        cases hNode
        have hBody : inner.isUngrouped = true := ih hTerm hInner
        exact hBody
  | group index on off body ih =>
      rw [Term.isUngrouped, Bool.and_eq_true, Option.isNone_iff_eq_none] at hTerm
      rw [Term.compile, hTerm.1] at hCompile
      obtain ⟨inner, hInner, hNode⟩ := bind_eq_ok hCompile
      cases hNode
      exact ih hTerm.2 hInner
  | atomic body ih =>
      rw [Term.compile] at hCompile
      obtain ⟨inner, hInner, hNode⟩ := bind_eq_ok hCompile
      cases hNode
      have hBody : inner.isUngrouped = true := ih hTerm hInner
      exact hBody
  | look behind negated body ih =>
      have hLook : ∀ back :
          Nat, (do return .look back negated (← body.compile groups flags) :
          Except Fault Node) = .ok node → node.isUngrouped = true := by
        intro back hEnd
        obtain ⟨inner, hInner, hNode⟩ := bind_eq_ok hEnd
        cases hNode
        have hBody : inner.isUngrouped = true := ih hTerm hInner
        exact hBody
      rw [Term.compile] at hCompile
      split at hCompile
      · obtain ⟨back, -, hRest⟩ := bind_eq_ok hCompile
        exact hLook back hRest
      · exact hLook 0 hCompile
  | again index => cases hTerm
  | whenSet index yes no ihYes ihNo => cases hTerm
  | _ =>
      cases hCompile
      rfl

/-- The terms of a sequence that compiles, with their nodes. -/
theorem parts_of_compile {groups : Nat → Width} {terms : List Term} {node : Node}
    (hCompile : (Term.ofReversed terms).compile groups plainFlags = .ok node) :
    ∃ parts : List Part, parts.map Part.term = terms ∧
    (∀ p ∈ parts, p.Sound groups) ∧
      node = Node.ofReversed (parts.map Part.node) := by
  induction terms generalizing node with
  | nil =>
      cases hCompile
      exact ⟨[], rfl, by simp, rfl⟩
  | cons t terms ih =>
      cases terms with
      | nil =>
          refine ⟨[⟨t, node⟩], rfl, fun p hMem => ?_, rfl⟩
          rw [List.mem_singleton.mp hMem]
          exact hCompile
      | cons u terms =>
          have hBoth : (Term.cat (Term.ofReversed (u :: terms)) t).compile groups
            plainFlags =
              .ok node := hCompile
          rw [Term.compile] at hBoth
          obtain ⟨earlier, hEarlier, hRest⟩ := bind_eq_ok hBoth
          obtain ⟨last, hLast, hNode⟩ := bind_eq_ok hRest
          cases hNode
          obtain ⟨parts, hTerms, hSound, rfl⟩ := ih hEarlier
          refine ⟨⟨t, last⟩ :: parts, by rw [List.map_cons, hTerms],
            fun p hMem => ?_, ?_⟩
          · rcases List.mem_cons.mp hMem with rfl | hMem
            · exact hLast
            · exact hSound p hMem
          · cases parts with
            | nil => cases hTerms
            | cons q parts => rfl

/-! ## Expressions that are one sequence -/

/-- Whether an expression is one sequence of items: it has no alternatives at
its top level, and no flags for the whole of it. -/
def isSequence (source : Text) : Bool :=
  match (Reader.items (2 * source.length + 3) false true []).run
      (Reading.initial .text source 0) with
  | .ok (_, s) => s.rest.isEmpty && s.flags == 0
  | .error _ => false

/-- A text that compiles on its own, without groups, and is one sequence of items. -/
structure Embeddable (source : Text) (r : Regex) : Prop where
  compiles : Regex.compile source 0 = .ok r
  ungrouped : r.groupCount = 0
  sequence : isSequence source = true

theorem sound_initial {source : Text} (hSource : source ≠ ['\\']) :
    (Reading.initial .text source 0).Sound :=
  ⟨hSource, rfl, Nat.zero_lt_one, nofun⟩

/-- What the compiler has read when it accepts an expression. -/
theorem read_of_compile {source : Text} {r : Regex}
    (hCompile : Regex.compile source 0 = .ok r) :
    source ≠ ['\\'] ∧ ∃ term s,
    (Reader.alternatives (2 * source.length + 4) true false).run
        (Reading.initial .text source 0) = .ok (term, s) ∧ s.rest = [] ∧
      s.conditions.find? (fun c => decide (s.groups.length ≤ c.1)) = none ∧
      r.groupCount = s.groups.length - 1 ∧
      ∃ flags groups, s.flags.settle .text = .ok flags ∧
        term.compile groups flags = .ok r.node := by
  unfold Regex.compile Regex.compileFor at hCompile
  obtain ⟨parsed, hRead, hNode⟩ := bind_eq_ok hCompile
  unfold Term.read at hRead
  split at hRead
  · cases hRead
  · rename_i hSlash
    obtain ⟨⟨term, s⟩, hRun, hRead⟩ := bind_eq_ok hRead
    obtain ⟨flags, hSettled, hRead⟩ := bind_eq_ok hRead
    dsimp only at hRead hNode
    split at hRead
    · cases hRead
    · rename_i hRest
      split at hRead
      · cases hRead
      · rename_i hFind
        cases hRead
        split at hNode
        · rename_i node hTerm
          cases hNode
          exact ⟨by simpa using hSlash, term, s, hRun, by simpa using hRest, hFind,
            rfl, flags, _, hSettled, hTerm⟩
        · cases hNode

theorem Embeddable.ne_slash {source : Text} {r : Regex}
    (hSource : Embeddable source r) :
    source ≠ ['\\'] :=
  (read_of_compile hSource.compiles).1

/-- An expression that compiles is one sequence, unless a bar ends its first
sequence of items or there are flags for the whole expression in it. -/
theorem bar_or_flags_of_compile {source : Text} {r : Regex}
    (hCompile : Regex.compile source 0 = .ok r) (hNot : isSequence source = false) :
    ∃ term s, (Reader.items (2 * source.length + 3) false true []).run
        (Reading.initial .text source 0) = .ok (term, s) ∧
      (Token.first? s.rest = some (.plain '|') ∨ s.flags ≠ 0) := by
  obtain ⟨-, term, s, hRun, hRest, -⟩ := read_of_compile hCompile
  have hStart := hRun
  simp only [Reader.alternatives] at hStart
  obtain ⟨head, mid, hItems, -⟩ := Reader.bind_run hStart
  refine ⟨head, mid, hItems, ?_⟩
  by_cases hBar : Token.first? mid.rest = some (.plain '|')
  · exact .inl hBar
  · have hSame :=
      Except.ok.inj (hRun.symm.trans (Reader.alternatives_run _ true hItems hBar))
    cases hSame
    rw [isSequence, hItems] at hNot
    exact .inr (by simpa [hRest] using hNot)

/-- Reading and compiling an expression that is one sequence. -/
theorem compile_of_items {source : Text} {term : Term} {last : Reading}
    (hItems : (Reader.items (2 * source.length + 3) false true []).run
      (Reading.initial .text source 0) = .ok (term, last))
    (hRest : last.rest = []) (hFlags : last.flags = 0) {r : Regex}
    (hCompile : Regex.compile source 0 = .ok r) :
    last.conditions.find? (fun c => decide (last.groups.length ≤ c.1)) = none ∧
      r.groupCount = last.groups.length - 1 ∧
      ∃ groups, term.compile groups plainFlags = .ok r.node := by
  have hSettle : Flags.settle 0 .text = .ok plainFlags := rfl
  have hBar : Token.first? last.rest ≠ some (.plain '|') := by
    simp [hRest, Token.first?]
  obtain ⟨-, read, s, hRun, -, hFind, hCount, flags, groups, hSettled, hNode⟩ :=
    read_of_compile hCompile
  cases Except.ok.inj (hRun.symm.trans (Reader.alternatives_run _ true hItems hBar))
  rw [hFlags] at hSettled
  cases hSettle.symm.trans hSettled
  exact ⟨hFind, hCount, groups, hNode⟩

/-- With one group there are no conditions that the compiler accepts. -/
theorem calm_of_whole {s : Reading} (hSound : s.Sound) (hFlags : s.flags = 0)
    (hCount : s.groups.length - 1 = 0)
    (hFind : s.conditions.find? (fun c => decide (s.groups.length ≤ c.1)) = none) :
    s.Calm := by
  have hGroups : s.groups = [none] := by
    have hWhole := hSound.whole
    cases hCases : s.groups with
    | nil =>
        rw [hCases] at hWhole
        cases hWhole
    | cons first more =>
        rw [hCases] at hWhole hCount
        cases hWhole
        rw [List.length_cons, Nat.add_sub_cancel, List.length_eq_zero_iff] at hCount
        rw [hCount]
  refine ⟨hFlags, hGroups, ?_⟩
  cases hConditions : s.conditions with
  | nil => rfl
  | cons c more =>
      rw [hConditions, List.find?_eq_none] at hFind
      have hPos :=
        hSound.conditions_pos c (by rw [hConditions]; exact List.mem_cons_self)
      have hRefused := hFind c List.mem_cons_self
      rw [hGroups] at hRefused
      exact absurd (decide_eq_true hPos) hRefused

/-- A text that can be embedded is read calmly. -/
theorem Embeddable.reading {source : Text} {r : Regex} (hSource : Embeddable source r) :
    ∃ term last, (Reader.items (2 * source.length + 3) false true []).run
        (Reading.initial .text source 0) = .ok (term, last) ∧
      (Reading.initial .text source 0).Onward last ∧ last.rest = [] ∧ last.Calm ∧
      ∃ groups, term.compile groups plainFlags = .ok r.node := by
  have hSequence := hSource.sequence
  unfold isSequence at hSequence
  split at hSequence
  · rename_i term last hItems
    rw [Bool.and_eq_true, List.isEmpty_iff, beq_iff_eq] at hSequence
    obtain ⟨hRest, hFlags⟩ := hSequence
    obtain ⟨hFind, hCount, hNode⟩ :=
      compile_of_items hItems hRest hFlags hSource.compiles
    rw [hSource.ungrouped] at hCount
    have hEmbed : Reader.SequencesEmbed .nothing source.length (2 * source.length + 3)
        (2 * source.length + 3) := Reader.sequencesEmbed (by omega) (Nat.le_refl _)
    have hOnward :=
      (hEmbed.items false true []).steps _ _ _ (sound_initial hSource.ne_slash)
      (Nat.le_refl _) hItems
    exact ⟨term, last, hItems, hOnward, hRest,
      calm_of_whole hOnward.sound hFlags hCount.symm hFind, hNode⟩
  · cases hSequence

/-- A state in which a fragment begins or ends, in its surroundings: so much
text is left, and nothing was kept but the groups. -/
structure Stands (t : Reading) (groups : List (Option Width)) (rest : Text) : Prop where
  rest : t.rest = rest
  groups : t.groups = groups
  subject : t.subject = .text
  flags : t.flags = 0
  names : t.names = []
  conditions : t.conditions = []

/-- A text that can be embedded is read in its surroundings, behind what was
read before: its parts are those of its node. -/
theorem Embeddable.embedded {source : Text} {r : Regex} (hSource : Embeddable source r)
    {w : Surroundings} (base : List Term) {t : Reading} {depth : Nat}
    (hStands : Stands t w.groups (source ++ w.tail))
    (hDepth : 2 * source.length + 3 ≤ depth) :
    ∃ (parts : List Part) (rest : Nat) (final : Reading),
      (∀ groups, ∀ p ∈ parts, p.Sound groups) ∧
      r.node = Node.ofReversed (parts.map Part.node) ∧ r.node.isUngrouped = true ∧
      depth ≤ rest + source.length ∧ Stands final w.groups w.tail ∧
      (Reader.items depth false true base).run t =
        (Reader.items rest false true (parts.map Part.term ++ base)).run final := by
  obtain ⟨term, last, hItems, hOnward, hRest, hCalm, groups, hNode⟩ :=
    hSource.reading
  have hAround : w.Around (Reading.initial .text source 0) t :=
    ⟨hStands.rest, hStands.groups, hStands.subject, hStands.flags, hStands.names,
      hStands.conditions⟩
  obtain ⟨terms, rest, final, rfl, hUngrouped, hFinal, hEnough, hEq⟩ :=
    Reader.items_embedded base (sound_initial hSource.ne_slash) (Nat.le_add_right _ 3)
      hDepth hItems hCalm hAround (by simp)
  obtain ⟨parts, rfl, hSound, hParts⟩ := parts_of_compile hNode
  refine ⟨parts, rest, final, fun other p hMem => ?_, hParts, ?_, hEnough, ?_, hEq⟩
  · have hTerm := hUngrouped p.term (List.mem_map_of_mem hMem)
    exact (compile_of_ungrouped hTerm other groups plainFlags).trans (hSound p hMem)
  · exact isUngrouped_of_compile (Reader.isUngrouped_ofReversed hUngrouped) hNode
  · refine ⟨?_, hFinal.groups, ?_, ?_, ?_, ?_⟩
    · rw [hFinal.rest, hRest, List.nil_append]
    · rw [hFinal.subject, hOnward.subject]
      rfl
    · rw [hFinal.flags, hCalm.flags]
    · rw [hFinal.names, hCalm.names hOnward.sound]
    · rw [hFinal.conditions, hCalm.conditions]

end Regex

end Retag

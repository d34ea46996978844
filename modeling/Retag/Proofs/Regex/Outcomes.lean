import Mathlib.Tactic.Choose
import Retag.Proofs.Regex.Forward

/-!
# The ends that a node tries

A node without groups does not look at the groups around it and does not
change them.  From a place of the text it tries some ends, one after the other
and whatever comes behind it, and its answer is the first answer that the rest
of the work gives at one of them.

So a match of several nodes can be cut: what the first one took is what it
takes when it stands alone, at the same place of the same text, and so is what
the last one took, although there a group was kept before it began.

## Main results

* `explores_run`: a node without groups tries the ends of a list.
* `spans_of_run`: where the rest of the work goes on, the node could have
  ended on its own.
-/

namespace Retag.Regex

open Text

/-! ## Work that tries some ends -/

/-- Work from some place that tries the ends of a list and leaves the groups alone. -/
def Tries (work : Cont → Marks → Option Spot) : Prop :=
  ∃ ends : List Cursor, ∀ k marks, work k marks = ends.findSome?
    fun d => k ⟨d, marks⟩

/-- Work that tries some ends from every place. -/
def Explores (body : Cont → Cont) : Prop :=
  ∀ c, Tries fun k marks => body k ⟨c, marks⟩

section Tries

/-- More work behind each end of some work. -/
theorem findSome?_flatMap (ends : List Cursor) (next : Cursor → List Cursor)
    (k : Cursor → Option Spot) :
    (ends.flatMap next).findSome? k = ends.findSome? fun d => (next d).findSome? k := by
  induction ends with
  | nil => rfl
  | cons d ends ih =>
      rw [List.flatMap_cons, List.findSome?_append, List.findSome?_cons, ih]
      cases (next d).findSome? k <;> rfl

theorem tries_here (c : Cursor) : Tries fun k marks => k ⟨c, marks⟩ :=
  ⟨[c], fun _ _ => List.findSome?_singleton.symm⟩

theorem tries_nothing : Tries fun _ _ => none := ⟨[], fun _ _ => rfl⟩

/-- One way to go on, or else another. -/
theorem Tries.orElse {first second : Cont → Marks → Option Spot}
    (hFirst : Tries first) (hSecond : Tries second) :
    Tries fun k marks => orTry (first k marks) fun _ => second k marks := by
  obtain ⟨ends, hEnds⟩ := hFirst
  obtain ⟨others, hOthers⟩ := hSecond
  refine ⟨ends ++ others, fun k marks => ?_⟩
  simp only [List.findSome?_append, hEnds, hOthers]
  cases ends.findSome? fun d => k ⟨d, marks⟩ <;> rfl

/-- Some work, and then other work that its end decides. -/
theorem Tries.andThen {body : Cont → Cont}
    {next : Cursor → Cont → Marks → Option Spot} {c : Cursor}
    (hBody : Tries fun k marks => body k ⟨c, marks⟩)
    (hNext : ∀ d, Tries (next d)) :
    Tries fun k marks => body (fun t => next t.cursor k t.marks) ⟨c, marks⟩ := by
  obtain ⟨ends, hEnds⟩ := hBody
  choose later hLater using hNext
  refine ⟨ends.flatMap later, fun k marks => ?_⟩
  rw [findSome?_flatMap, hEnds]
  simp only [hLater]

end Tries

/-! ## Repetitions -/

section Explores

variable {body : Cont → Cont}

theorem Explores.ends (hBody : Explores body) (c : Cursor) :
    ∃ ends : List Cursor, ∀ k marks,
      body k ⟨c, marks⟩ = ends.findSome? fun d => k ⟨d, marks⟩ :=
  hBody c

/-- Work whose first end is final: either there is no end, or the work goes on
from one place, whatever comes behind. -/
theorem Explores.first (hBody : Explores body) (c : Cursor) :
    (∀ marks, body some ⟨c, marks⟩ = none) ∨
      ∃ d, ∀ marks, body some ⟨c, marks⟩ = some ⟨d, marks⟩ := by
  obtain ⟨ends, hEnds⟩ := hBody.ends c
  cases ends with
  | nil => exact .inl fun marks => hEnds some marks
  | cons d ends => exact .inr ⟨d, fun marks => hEnds some marks⟩

theorem explores_once (hBody : Explores body) : Explores (once body) := by
  intro c
  unfold once
  rcases hBody.first c with hNone | ⟨d, hSome⟩
  · simp only [hNone]
    exact tries_nothing
  · simp only [hSome]
    exact tries_here d

theorem explores_times (hBody : Explores body) (n : Nat) : Explores (times body n) := by
  induction n with
  | zero => exact tries_here
  | succ n ih => exact fun c => (hBody c).andThen ih

/-- What follows a turn of a repetition: another repetition if the turn took a
character, and the rest of the work if it took none. -/
theorem tries_turn {loop : Cont → Cont} (hLoop : Explores loop) (c d : Cursor) :
    Tries fun k marks => if d.left < c.left then loop k ⟨d, marks⟩
    else k ⟨d, marks⟩ := by
  by_cases hTook : d.left < c.left
  · simp only [hTook, if_true]
    exact hLoop d
  · simp only [hTook, if_false]
    exact tries_here d

/-- A repetition with no room left is the rest of the work. -/
theorem Explores.bounded {loop : Cont → Cont} {room : Option Nat}
    (hFull : room = some 0 → loop = id) (hRoom : room ≠ some 0 → Explores loop) :
    Explores loop := by
  by_cases hNone : room = some 0
  · rw [hFull hNone]
    exact tries_here
  · exact hRoom hNone

theorem explores_greedy (hBody : Explores body) (fuel : Nat) (room : Option Nat) :
    Explores fun k => greedy body k fuel room := by
  induction fuel generalizing room with
  | zero =>
      refine .bounded (by rintro rfl; rfl) fun (hRoom : room ≠ some 0) c => ?_
      simp only [greedy.eq_2 body _ room _ hRoom]
      exact (hBody c).orElse (tries_here c)
  | succ fuel ih =>
      refine .bounded (by rintro rfl; rfl) fun (hRoom : room ≠ some 0) c => ?_
      simp only [greedy.eq_3 body _ room _ fuel hRoom]
      exact ((hBody c).andThen (tries_turn (ih (lessRoom room)) c)).orElse
        (tries_here c)

theorem explores_lazy (hBody : Explores body) (fuel : Nat) (room : Option Nat) :
    Explores fun k => lazy body k fuel room := by
  induction fuel generalizing room with
  | zero =>
      refine .bounded (by rintro rfl; rfl) fun (hRoom : room ≠ some 0) c => ?_
      simp only [lazy.eq_2 body _ room _ hRoom]
      exact (tries_here c).orElse (hBody c)
  | succ fuel ih =>
      refine .bounded (by rintro rfl; rfl) fun (hRoom : room ≠ some 0) c => ?_
      simp only [lazy.eq_3 body _ room _ fuel hRoom]
      exact (tries_here c).orElse
        ((hBody c).andThen (tries_turn (ih (lessRoom room)) c))

theorem explores_possessive (hBody : Explores body) (fuel : Nat) (room : Option Nat) :
    Explores fun k => possessive body k fuel room := by
  induction fuel generalizing room with
  | zero =>
      refine .bounded (by rintro rfl; rfl) fun (hRoom : room ≠ some 0) c => ?_
      simp only [possessive.eq_2 body _ room _ hRoom]
      rcases hBody.first c with hNone | ⟨d, hSome⟩
      · simp only [hNone]
        exact tries_here c
      · simp only [hSome]
        exact tries_here d
  | succ fuel ih =>
      refine .bounded (by rintro rfl; rfl) fun (hRoom : room ≠ some 0) c => ?_
      simp only [possessive.eq_3 body _ room _ fuel hRoom]
      rcases hBody.first c with hNone | ⟨d, hSome⟩
      · simp only [hNone]
        exact tries_here c
      · simp only [hSome]
        exact tries_turn (ih (lessRoom room)) c d

theorem explores_repetition (hBody : Explores body) (mode : Mode) (least : Nat)
    (room : Option Nat) : Explores (repetition mode least room body) := by
  intro c
  cases mode with
  | greedy =>
      exact (explores_times hBody least c).andThen fun d =>
        explores_greedy hBody d.left room d
  | lazy =>
      exact (explores_times hBody least c).andThen fun d =>
        explores_lazy hBody d.left room d
  | possessive =>
      exact (explores_times (explores_once hBody) least c).andThen fun d =>
        explores_possessive hBody d.left room d

end Explores

/-! ## Nodes without groups -/

/-- Whether a node neither keeps a group nor asks for one. -/
def Node.isUngrouped : Node → Bool
  | .cat a b => a.isUngrouped && b.isUngrouped
  | .alt a b => a.isUngrouped && b.isUngrouped
  | .many _ _ _ body => body.isUngrouped
  | .atomic body => body.isUngrouped
  | .look _ _ body => body.isUngrouped
  | .group .. => false
  | .again .. => false
  | .whenSet .. => false
  | .done => true
  | .one _ => true
  | .place _ => true

/-- A node without groups tries the ends of a list. -/
theorem explores_run {node : Node} (hNode : node.isUngrouped = true) :
    Explores node.run := by
  induction node with
  | done => exact tries_here
  | one set =>
      intro c
      simp only [Node.run]
      cases hNext : c.next? with
      | none => exact tries_nothing
      | some step =>
          by_cases hHas : set.has step.1 = true
          · simp only [hHas, if_true]
            exact tries_here step.2
          · simp only [hHas]
            exact tries_nothing
  | cat a b iha ihb =>
      simp only [Node.isUngrouped, Bool.and_eq_true] at hNode
      exact fun c => (iha hNode.1 c).andThen (ihb hNode.2)
  | alt a b iha ihb =>
      simp only [Node.isUngrouped, Bool.and_eq_true] at hNode
      exact fun c => (iha hNode.1 c).orElse (ihb hNode.2 c)
  | place p =>
      intro c
      simp only [Node.run]
      by_cases hHolds : p.holds c = true
      · simp only [hHolds, if_true]
        exact tries_here c
      · simp only [hHolds]
        exact tries_nothing
  | many mode least room body ih => exact explores_repetition (ih hNode) mode least room
  | group index body ih => cases hNode
  | atomic body ih => exact explores_once (ih hNode)
  | look back negated body ih =>
      intro c
      have hHere : ∀ b : Bool, Tries fun k marks =>
          if b then k ⟨c, marks⟩ else none := by
        intro b
        cases b
        · exact tries_nothing
        · exact tries_here c
      have hElse : ∀ b : Bool, Tries fun k marks =>
          if b then none else k ⟨c, marks⟩ := by
        intro b
        cases b
        · exact tries_here c
        · exact tries_nothing
      simp only [Node.run]
      cases hBack : c.back? back with
      | none => exact hHere negated
      | some d =>
          -- the body is only asked whether it matches
          rcases (ih hNode).first d with hNone | ⟨e, hSome⟩
          · simp only [hNone]
            exact hHere negated
          · simp only [hSome]
            exact hElse negated
  | again index folding => cases hNode
  | whenSet index yes no ihYes ihNo => cases hNode

/-! ## Matching on its own -/

/-- Whether a node can match from one place to another: an answer is accepted
at the second place alone. -/
def Node.spans (node : Node) (c d : Cursor) : Bool :=
  (node.run (fun t => if t.cursor = d then some t else none) ⟨c, []⟩).isSome

theorem reaches_of_spans {node : Node} {c d : Cursor} (hSpans : node.spans c d = true) :
    c.Reaches d := by
  obtain ⟨t, hRun⟩ := Option.isSome_iff_exists.mp hSpans
  obtain ⟨u, hLeads, hAnswer⟩ := forward_run node _ _ t hRun
  split at hAnswer
  · rename_i hCursor
    rw [← hCursor]
    exact hLeads.reaches
  · cases hAnswer

/-- Where the rest of the work goes on, the node could have ended on its own,
and the groups are as before. -/
theorem spans_of_run {node : Node} (hNode : node.isUngrouped = true) {k : Cont}
    {c : Cursor} {marks : Marks} {t : Spot}
    (hRun : node.run k ⟨c, marks⟩ = some t) :
    ∃ d, node.spans c d = true ∧ k ⟨d, marks⟩ = some t := by
  obtain ⟨ends, hEnds⟩ := (explores_run hNode).ends c
  rw [hEnds] at hRun
  obtain ⟨d, hMem, hAnswer⟩ := List.exists_of_findSome?_eq_some hRun
  refine ⟨d, ?_, hAnswer⟩
  rw [Node.spans, hEnds, List.findSome?_isSome_iff]
  exact ⟨d, hMem, by simp⟩

end Retag.Regex

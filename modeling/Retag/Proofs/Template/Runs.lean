import Retag.Template

/-!
# Runs of a template

A template is rendered as often as its user likes.  A run is a list of
calls, each answered by the template that the call before it left behind.

What is compiled depends on the template alone: `Template.outcome` is the
program or the failure, and `Template.buildCalls` is what the engine is asked
for on the way.  A lazy template pays for both with its first rendering, and
again with every further one as long as it has no program.  From the moment
it has one it is the template that was compiled when it was made, so its
whole run is the run of that template.

## Main results

* `build_fst`, `calls_build`: one compilation.
* `renders_draft_of_ok`, `renders_draft_of_error`: the run of a lazy template.
* `lazy_runs_as_eager`: lazy and eager templates, on every run.
-/

namespace Retag

open Log

/-! ## The engine's calls in a journal -/

section Calls

variable {α : Type}

/-- A scope changes neither the answer of the work in it nor its calls. -/
theorem inScope_eq (name : Option String) (work : Journal → α × Journal)
    (j : Journal) :
    (j.inScope name work).1 = (work { j with scope := name.or j.scope }).1 ∧
      (j.inScope name work).2.calls =
        (work { j with scope := name.or j.scope }).2.calls := by
  cases name with
  | none => exact ⟨rfl, rfl⟩
  | some name => exact ⟨rfl, rfl⟩

/-- Timing some work changes neither its answer nor its calls. -/
theorem timed_eq (t : Timing) (work : Journal → Except EngineFault α × Journal)
    (j : Journal) :
    (timed t work j).1 = (work j).1 ∧
    (timed t work j).2.calls = (work j).2.calls := by
  unfold timed
  cases hAnswer : (work j).1 with
  | ok x => simp only [hAnswer]; exact ⟨trivial, rfl⟩
  | error fault => simp only [hAnswer]; exact ⟨trivial, rfl⟩

end Calls

variable {Program : Type}

/-- The turns of a run of an engine: each call with the program that it finds. -/
def Engine.turns (e : Engine Program) : Program → List Call → List (Program × Call)
  | _, [] => []
  | program, call :: calls =>
    (program, call) :: e.turns (e.render program call).program calls

theorem Engine.map_turns_const {α : Type} (e : Engine Program) (program : Program)
    (calls : List Call) (a : α) :
    (e.turns program calls).map (fun _ => a) = calls.map fun _ => a := by
  induction calls generalizing program with
  | nil => rfl
  | cons call calls ih => rw [turns, List.map_cons, List.map_cons, ih]

namespace Template

/-! ## Compiling -/

/-- A template that is not compiled. -/
def draft (segments : List Segment) (guard : Guard) (name path : Option String)
    (engine : NumberedEngine Program) : Template Program :=
  ⟨segments, guard, name, path, engine, none⟩

/-- What compiling the template gives. -/
def outcome (t : Template Program) : Except Failure Program := do
  let text ← t.nativeText
  orFail .engine (t.engine.engine.compile (.text (String.ofList text)) t.path)

/-- What the engine is asked for when the template is compiled: nothing if
there is no native text. -/
def buildCalls (t : Template Program) : List CompileCall :=
  match t.nativeText with
  | .ok text => [⟨t.engine.number, .text (String.ofList text), t.path⟩]
  | .error _ => []

theorem compileText_eq (t : Template Program) (text : Text) (j : Journal) :
    (t.compileText text j).1 =
        t.engine.engine.compile (.text (String.ofList text)) t.path ∧
      (t.compileText text j).2.calls =
        j.calls ++ [⟨t.engine.number, .text (String.ofList text), t.path⟩] := by
  have hScope := inScope_eq t.name
    (timed t.timing (t.engine.compile (.text (String.ofList text)) t.path)) j
  have hTimed :=
    timed_eq t.timing (t.engine.compile (.text (String.ofList text)) t.path)
    { j with scope := t.name.or j.scope }
  exact ⟨hScope.1.trans hTimed.1, hScope.2.trans hTimed.2⟩

theorem build_fst (t : Template Program) (j : Journal) : (t.build j).1 = t.outcome := by
  unfold build outcome
  cases hText : t.nativeText with
  | error e => rfl
  | ok text =>
      show orFail .engine (t.compileText text j).1 = _
      rw [(t.compileText_eq text j).1]
      rfl

/-- Compiling asks the engine for what the template says, and for nothing else. -/
theorem calls_build (t : Template Program) (j : Journal) :
    (t.build j).2.calls = j.calls ++ t.buildCalls := by
  unfold build buildCalls
  cases hText : t.nativeText with
  | error e => exact (List.append_nil _).symm
  | ok text => exact (t.compileText_eq text j).2

theorem buildCalls_of_ok {t : Template Program} {program : Program}
    (hOutcome : t.outcome = .ok program) : ∃ call, t.buildCalls = [call] := by
  unfold outcome at hOutcome
  unfold buildCalls
  cases hText : t.nativeText with
  | error e =>
      rw [hText] at hOutcome
      cases hOutcome
  | ok text => exact ⟨_, rfl⟩

/-! ## Runs -/

/-- The renderings of a run. -/
def renders (t : Template Program) :
    List Call → Journal → List (TemplateRendering Program)
  | [], _ => []
  | call :: calls, j =>
    let r := t.render call j
    r :: r.template.renders calls r.journal

/-- The journal after a run. -/
def journalAfter (t : Template Program) : List Call → Journal → Journal
  | [], j => j
  | call :: calls, j =>
    let r := t.render call j
    r.template.journalAfter calls r.journal

theorem render_withProgram (t : Template Program) (program : Program) (call : Call)
    (j : Journal) :
    (t.withProgram program).render call j =
      ⟨t.restored (t.engine.engine.render program call).answer,
        (t.engine.engine.render program call).inserted,
        t.withProgram (t.engine.engine.render program call).program, j⟩ := rfl

/-- The first rendering of a template that can be compiled is that of the
compiled template. -/
theorem render_of_build {t : Template Program} {program : Program} {j built : Journal}
    (hDraft : t.program = none) (hBuild : t.build j = (.ok program, built))
    (call : Call) :
    t.render call j = (t.withProgram program).render call built := by
  rw [render_withProgram]
  simp only [render, programOr, hDraft, hBuild]

/-- A rendering of a template that cannot be compiled fails as compiling
does, and leaves it as it was. -/
theorem render_of_build_error {t : Template Program} {e : Failure} {j failed : Journal}
    (hDraft : t.program = none) (hBuild : t.build j = (.error e, failed))
    (call : Call) :
    t.render call j = ⟨.error e, [], t, failed⟩ := by
  simp only [render, programOr, hDraft, hBuild]

/-- A compiled template stays compiled, whatever its renderings answer. -/
theorem renders_withProgram (t : Template Program) (calls : List Call)
    (program : Program) (j : Journal) :
    (∀ r ∈ (t.withProgram program).renders calls j,
      r.template.isCompiled = true) ∧
      (t.withProgram program).journalAfter calls j = j := by
  induction calls generalizing program with
  | nil => exact ⟨by simp [renders], rfl⟩
  | cons call calls ih =>
      obtain ⟨hCompiled, hJournal⟩ :=
        ih (t.engine.engine.render program call).program
      simp only [renders, journalAfter, render_withProgram, List.mem_cons,
        forall_eq_or_imp]
      exact ⟨⟨rfl, hCompiled⟩, hJournal⟩

/-- The run of a lazy template that can be compiled is the run of the
compiled one.  It compiles with the first call, if there is one. -/
theorem renders_draft_of_ok {t : Template Program} {program : Program}
    {j built : Journal} (hDraft : t.program = none)
    (hBuild : t.build j = (.ok program, built)) (calls : List Call) :
    t.renders calls j = (t.withProgram program).renders calls built ∧
      t.journalAfter calls j = if calls.isEmpty then j else built := by
  cases calls with
  | nil => exact ⟨rfl, rfl⟩
  | cons call calls =>
      have hJournal := (t.renders_withProgram (call :: calls) program built).2
      simp only [renders, journalAfter, render_of_build hDraft hBuild] at hJournal ⊢
      exact ⟨trivial, hJournal⟩

/-- The answers of a compiled template are the engine's, with the guarded
characters put back. -/
theorem answers_withProgram (t : Template Program) (calls : List Call)
    (program : Program) (j : Journal) :
    ((t.withProgram program).renders calls j).map (·.answer) =
      (t.engine.engine.turns program calls).map fun turn =>
        t.restored (t.engine.engine.render turn.1 turn.2).answer := by
  induction calls generalizing program with
  | nil => rfl
  | cons call calls ih =>
      simp only [renders, Engine.turns, render_withProgram, List.map_cons, ih]

/-- A template that can be compiled is made, lazy or not, and answers like
the compiled one ever after. -/
theorem create_of_outcome {t : Template Program} {program : Program}
    (hDraft : t.program = none) (hOutcome : t.outcome = .ok program) (isLazy : Bool)
    (j : Journal) :
    ∃ made after, create isLazy t j = (.ok made, after) ∧
      ∀ calls later, (made.renders calls later).map (·.answer) =
        (t.engine.engine.turns program calls).map fun turn =>
          t.restored (t.engine.engine.render turn.1 turn.2).answer := by
  have hBuild : ∀ later, t.build later = (.ok program, (t.build later).2) :=
    fun later => by
    rw [← hOutcome, ← t.build_fst later]
  cases isLazy with
  | true =>
      -- it is compiled by the first call, long after it was made
      refine ⟨t, j, rfl, fun calls later => ?_⟩
      rw [(renders_draft_of_ok hDraft (hBuild later) calls).1, answers_withProgram]
  | false =>
      refine ⟨t.withProgram program, (t.build j).2, ?_, fun calls later =>
        t.answers_withProgram calls program later⟩
      show ((t.build j).1.map t.withProgram, (t.build j).2) = _
      rw [hBuild j]
      rfl

/-- In a run of a template that cannot be compiled every rendering fails
anew, and asks the engine anew for what compiling asks it for. -/
theorem renders_draft_of_error {t : Template Program} {e : Failure}
    (hDraft : t.program = none) (hOutcome : t.outcome = .error e) (calls : List Call)
    (j : Journal) :
    (∀ r ∈ t.renders calls j, r.answer = .error e ∧ r.template = t) ∧
      (t.journalAfter calls j).calls =
        j.calls ++ (List.replicate calls.length t.buildCalls).flatten := by
  induction calls generalizing j with
  | nil => exact ⟨by simp [renders], (List.append_nil _).symm⟩
  | cons call calls ih =>
      have hBuild : t.build j = (.error e, (t.build j).2) := by
        rw [← hOutcome, ← t.build_fst j]
      -- the rest of the run is a run of the same template
      obtain ⟨hFail, hCalls⟩ := ih (t.build j).2
      simp only [renders, journalAfter, render_of_build_error hDraft hBuild,
        List.mem_cons, forall_eq_or_imp]
      refine ⟨⟨⟨trivial, trivial⟩, hFail⟩, ?_⟩
      rw [hCalls, calls_build, List.length_cons, List.replicate_succ, List.flatten_cons,
        List.append_assoc]

/-- Lazy and eager templates on every run.  A lazy template is made without
asking the engine.  If it can be compiled, its run is that of the eager
template, it is compiled after each of the renderings, and the run asks the
engine once, or not at all if there is no rendering.  If it cannot be
compiled, the eager template cannot be made; every rendering of the lazy one
fails in the same way and leaves it uncompiled, and each has asked the engine
once, or not at all if there is no native text. -/
theorem lazy_runs_as_eager (segments : List Segment) (guard : Guard)
    (name path : Option String) (engine : NumberedEngine Program) (calls : List Call)
    (j : Journal) :
    let t := draft segments guard name path engine
    create true t j = (.ok t, j) ∧ t.isCompiled = false ∧
      match t.build j with
      | (.ok program, built) =>
        create false t j = (.ok (t.withProgram program), built) ∧
          t.renders calls j = (t.withProgram program).renders calls built ∧
          (∀ r ∈ t.renders calls j, r.template.isCompiled = true) ∧
          ∃ call, built.calls = j.calls ++ [call] ∧
            (t.journalAfter calls j).calls =
              j.calls ++ if calls.isEmpty then [] else [call]
      | (.error e, failed) =>
        create false t j = (.error e, failed) ∧
          (∀ r ∈ t.renders calls j,
            r.answer = .error e ∧ r.template.isCompiled = false) ∧
          (t.journalAfter calls j).calls =
            j.calls ++ match t.nativeText with
              | .ok text => List.replicate calls.length
                  ⟨engine.number, .text (String.ofList text), path⟩
              | .error _ => [] := by
  intro t
  have hDraft : t.program = none := rfl
  have hFst := t.build_fst j
  have hCalls := t.calls_build j
  have hCreate : create false t j = ((t.build j).1.map t.withProgram, (t.build j).2) :=
    rfl
  refine ⟨rfl, rfl, ?_⟩
  rw [hCreate]
  rcases hBuild : t.build j with ⟨answer, after⟩
  rw [hBuild] at hFst hCalls
  simp only at hFst hCalls
  cases answer with
  | ok program =>
      obtain ⟨hRenders, hJournal⟩ := renders_draft_of_ok hDraft hBuild calls
      obtain ⟨call, hCall⟩ := buildCalls_of_ok hFst.symm
      rw [hCall] at hCalls
      refine ⟨rfl, hRenders, ?_, call, hCalls, ?_⟩
      · rw [hRenders]
        exact (t.renders_withProgram calls program after).1
      · rw [hJournal]
        split
        · exact (List.append_nil _).symm
        · exact hCalls
  | error e =>
      obtain ⟨hFail, hAfter⟩ := renders_draft_of_error hDraft hFst.symm calls j
      refine ⟨rfl, fun r hr => ?_, ?_⟩
      · obtain ⟨hAnswer, hTemplate⟩ := hFail r hr
        exact ⟨hAnswer, by rw [hTemplate]; rfl⟩
      · rw [hAfter, buildCalls]
        cases t.nativeText with
        | error e => simp
        | ok text =>
            rw [List.flatten_replicate_singleton]
            rfl

end Template

end Retag

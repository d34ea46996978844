import Retag.Engine.Program
import Retag.Proofs.Cache.Requests
import Retag.Proofs.Tag.Pieces
import Retag.Proofs.Template.Runs
import Retag.Session.Render

/-!
# Templates of engines that stand alone

An engine stands alone if its programs insert no other template and do not ask
what inserting one would give.  Probes are such engines.  What a rendering with
such an engine gives is then a matter of the template and of what it is called
with: it depends neither on what other templates are there nor on what was
logged before.

Compiling gives templates of the engine that was asked, with the path that it
was asked with.

## Main results

* `standalone_probe`: probes stand alone.
* `Template.rendered_standalone`: renderings of templates.
* `compile_madeBy`: what compiling gives.
-/

namespace Retag

open Log

variable {Program : Type}

/-! ## Engines -/

/-- Calls that differ at most in what inserting a template would give. -/
structure Call.Alike (c d : Call) : Prop where
  context_eq : d.context = c.context
  helpers_eq : d.helpers = c.helpers
  names_eq : d.partials.map (·.map Prod.fst) = c.partials.map (·.map Prod.fst)

theorem Call.Alike.passed_eq {c d : Call} (hAlike : c.Alike d) :
    d.passed = c.passed := by
  have hPartials : d.partials.isSome = c.partials.isSome := by
    have hNames := congrArg Option.isSome hAlike.names_eq
    rwa [Option.isSome_map, Option.isSome_map] at hNames
  unfold Call.passed
  rw [hAlike.helpers_eq, hPartials]

namespace Engine

/-- The programs that an engine comes to. -/
inductive Reaches (e : Engine Program) : Program → Prop
  | compile {source : Value} {path : Option String} {program : Program}
      (hCompile : e.compile source path = .ok program) : e.Reaches program
  | render {program : Program} (hReaches : e.Reaches program) (call : Call) :
      e.Reaches (e.render program call).program

/-- An engine whose programs neither insert templates nor ask what inserting
one would give. -/
def Standalone (e : Engine Program) : Prop :=
  ∀ program, e.Reaches program → ∀ call, (e.render program call).inserted = [] ∧
    ∀ other, call.Alike other → e.render program other = e.render program call

/-- A probe stays a probe. -/
theorem eq_probe_of_reaches {answer : ProbeAnswer} {cost : Rat}
    {program : Retag.Program} (hReaches : (probe answer cost).Reaches program) :
    ∃ source count, program = .probe answer source count := by
  induction hReaches with
  | @compile source path program hCompile =>
      simp only [probe] at hCompile
      split at hCompile
      · cases hCompile
      · exact ⟨source, 0, (Except.ok.inj hCompile).symm⟩
  | render hReaches call ih =>
      obtain ⟨source, count, rfl⟩ := ih
      refine ⟨source, count + 1, ?_⟩
      show (renderProbe answer source count call).program = _
      unfold renderProbe
      split <;> rfl

theorem standalone_probe (answer : ProbeAnswer) (cost : Rat) :
    (probe answer cost).Standalone := by
  intro program hReaches call
  obtain ⟨source, count, rfl⟩ := eq_probe_of_reaches hReaches
  constructor
  · show (renderProbe answer source count call).inserted = []
    unfold renderProbe
    split <;> rfl
  · intro other hAlike
    show renderProbe answer source count other = renderProbe answer source count call
    unfold renderProbe ProbeAnswer.value
    rw [hAlike.context_eq, hAlike.passed_eq]

end Engine

/-! ## Templates -/

namespace Template

/-- A template of an engine that stands alone. -/
structure Standalone (t : Template Program) : Prop where
  engine : t.engine.engine.Standalone
  reaches : ∀ program, t.program = some program → t.engine.engine.Reaches program

theorem reaches_of_outcome {t : Template Program} {program : Program}
    (hOutcome : t.outcome = .ok program) : t.engine.engine.Reaches program := by
  obtain ⟨text, -, hCompile⟩ := bind_eq_ok hOutcome
  exact .compile (orFail_eq_ok hCompile)

theorem programOr_fst (t : Template Program) (j : Journal) :
    (t.programOr j).1 = t.currentProgram := by
  unfold programOr currentProgram
  cases t.program with
  | some program => rfl
  | none => exact t.build_fst j

/-- Compiling is done once, as the template says. -/
theorem calls_programOr (t : Template Program) (j : Journal) :
    (t.programOr j).2.calls = j.calls ++ if t.isCompiled then [] else t.buildCalls := by
  unfold programOr isCompiled
  cases t.program with
  | some program => exact (List.append_nil _).symm
  | none => exact t.calls_build j

theorem Standalone.reaches_currentProgram {t : Template Program}
    (hStandalone : t.Standalone) {program : Program}
    (hProgram : t.currentProgram = .ok program) :
    t.engine.engine.Reaches program := by
  unfold currentProgram at hProgram
  cases hKept : t.program with
  | some kept =>
      rw [hKept] at hProgram
      obtain rfl := Except.ok.inj hProgram
      exact hStandalone.reaches kept hKept
  | none =>
      rw [hKept] at hProgram
      exact reaches_of_outcome hProgram

/-- A rendering inserts nothing, changes nothing but the program that is kept,
and does not ask what inserting a template would give. -/
theorem rendered_standalone {t : Template Program} (hStandalone : t.Standalone)
    (call : Call) :
    (t.rendered call t.currentProgram).2.1 = [] ∧
      (t.rendered call t.currentProgram).2.2.Standalone ∧
      (∃ program,
        (t.rendered call t.currentProgram).2.2 = { t with program := program }) ∧
      ∀ other, call.Alike other →
        t.rendered other t.currentProgram = t.rendered call t.currentProgram := by
  cases hProgram : t.currentProgram with
  | error e => exact ⟨rfl, hStandalone, ⟨t.program, rfl⟩, fun _ _ => rfl⟩
  | ok program =>
      have hReaches := hStandalone.reaches_currentProgram hProgram
      obtain ⟨hInserted, hSame⟩ := hStandalone.engine program hReaches call
      refine ⟨hInserted, ⟨hStandalone.engine, fun after hAfter => ?_⟩,
        ⟨_, rfl⟩, fun other hAlike => ?_⟩
      · obtain rfl := Option.some.inj hAfter
        exact .render hReaches call
      · simp only [rendered, hSame other hAlike]

end Template

/-! ## What compiling gives -/

namespace Compiled

/-- The template, if one was compiled. -/
def template? : Compiled Program → Option (Template Program)
  | .native .. => none
  | .template t => some t

@[simp] theorem template?_eq_some {compiled : Compiled Program} {t : Template Program} :
    compiled.template? = some t ↔ compiled = .template t := by
  cases compiled <;> simp [template?]

/-- What was compiled by an engine that stands alone. -/
def Standalone : Compiled Program → Prop
  | .native engine program => engine.Standalone ∧ engine.Reaches program
  | .template t => t.Standalone

/-- What an engine compiles with a path. -/
def MadeBy (e : NumberedEngine Program) (path : Option String) :
    Compiled Program → Prop
  | .native engine program => engine = e.engine ∧ engine.Reaches program
  | .template t => t.engine = e ∧ t.path = path ∧ t.name = path ∧
      ∀ program, t.program = some program → t.engine.engine.Reaches program

theorem MadeBy.standalone {e : NumberedEngine Program} {path : Option String}
    {compiled : Compiled Program} (hMade : compiled.MadeBy e path)
    (hEngine : e.engine.Standalone) : compiled.Standalone := by
  cases compiled with
  | native engine program =>
      obtain ⟨rfl, hReaches⟩ := hMade
      exact ⟨hEngine, hReaches⟩
  | template t =>
      obtain ⟨rfl, -, -, hReaches⟩ := hMade
      exact ⟨hEngine, hReaches⟩

end Compiled

/-- A new template has a program only if it was compiled. -/
theorem Template.create_eq_ok {t made : Template Program} (hDraft : t.program = none)
    {isLazy : Bool} {j : Journal} (hMade : (create isLazy t j).1 = .ok made) :
    (∃ program, made = { t with program := program }) ∧
      ∀ program, made.program = some program → t.engine.engine.Reaches program := by
  cases isLazy with
  | true =>
      obtain rfl := Except.ok.inj hMade
      refine ⟨⟨t.program, rfl⟩, fun program hProgram => ?_⟩
      rw [hDraft] at hProgram
      cases hProgram
  | false =>
      change (t.build j).1.map t.withProgram = .ok made at hMade
      rw [t.build_fst] at hMade
      obtain ⟨program, hOutcome, rfl⟩ := map_eq_ok hMade
      refine ⟨⟨some program, rfl⟩, fun kept hKept => ?_⟩
      obtain rfl := Option.some.inj hKept
      exact reaches_of_outcome hOutcome

theorem compileNative_madeBy {e : NumberedEngine Program} {source : Value}
    {path : Option String} {j : Journal} {compiled : Compiled Program}
    (hMade : (compileNative e source path j).1 = .ok compiled) :
    compiled.MadeBy e path := by
  obtain ⟨program, hCompile, rfl⟩ := map_eq_ok hMade
  exact ⟨rfl, .compile (orFail_eq_ok hCompile)⟩

theorem templateWork_madeBy {e : NumberedEngine Program} {markers : MarkerSet}
    {guard : Guard} {path : Option String} {source : Value} {j : Journal}
    {t : Template Program}
    (hMade : (templateWork e markers guard path source j).1 = .ok t) :
    Compiled.MadeBy e path (.template t) := by
  unfold templateWork at hMade
  split at hMade
  · cases hMade
  · split at hMade
    · cases hMade
    · obtain ⟨⟨program, rfl⟩, hReaches⟩ := Template.create_eq_ok rfl hMade
      exact ⟨rfl, rfl, rfl, hReaches⟩

/-- What compiling with a sound cache gives. -/
theorem compile_madeBy {c : MatcherCache} (hSound : c.Sound)
    {e : NumberedEngine Program} {markers : MarkerSet} {guard : Guard}
    {path : Option String} {source : Value} {j : Journal} {compiled : Compiled Program}
    (hMade : (compile e markers guard path source c j).1.1 = .ok compiled) :
    compiled.MadeBy e path := by
  rw [compile_eq hSound] at hMade
  simp only [compileAnew] at hMade
  split at hMade
  · exact compileNative_madeBy hMade
  · rw [(inScope_eq path _ _).1] at hMade
    obtain ⟨t, hWork, rfl⟩ := map_eq_ok hMade
    exact templateWork_madeBy hWork

end Retag

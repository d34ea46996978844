import Retag.Proofs.Session.Caching
import Retag.Proofs.Template.Standalone

/-!
# Templates are settled when they are made

A template that stands under a name keeps its segments, its guard, its name,
its path and its engine, whatever steps a session takes, as long as nothing
else is put under that name: steps only ever give it a program, and only its
own renderings do if all engines stand alone.  So what its renderings answer,
and what they ask the engine for, is the same whether other steps come between
them or not.

Every step puts at most one thing under a name.  From that the invariant of a
session, and what is left alone by a step, follow at once.

## Main results

* `puts_perform`: what a step puts under a name.
* `turnsOf_filter`: a run with and without the steps in between.
* `templates_are_settled`: templates that were compiled in a session.
-/

namespace Retag

open Log

variable {Program : Type}

namespace Step

/-- The engines that a step brings into a session. -/
def engines : Step Program → List (Engine Program)
  | .makeEngine _ e => [e]
  | .compileTemplate r _ =>
    match r.engine with
    | .named _ => []
    | .fresh e => [e]
  | _ => []

/-- The name under which a step puts what it compiles from a source. -/
def compiles? : Step Program → Option String
  | .compile _ _ _ target => some target
  | .compileTemplate _ target => some target
  | _ => none

/-- The name under which a step puts something new. -/
def makes? : Step Program → Option String
  | .makeTemplate _ target => some target
  | step => step.compiles?

/-- The name under which a step puts something, be it new or rendered. -/
def writes? : Step Program → Option String
  | .render name _ => some name
  | step => step.makes?

/-- Whether a step looks at what stands under a name. -/
def concerns (target : String) : Step Program → Bool
  | .inspect name => name == target
  | .render name _ => name == target
  | _ => false

/-- A step that does not look at what stands under a name does not put there
what it rendered. -/
theorem writes?_ne {step : Step Program} {target : String}
    (hMakes : step.makes? ≠ some target)
    (hOther : step.concerns target = false) : step.writes? ≠ some target := by
  cases step with
  | render name r =>
      intro hSame
      rw [Option.some.inj hSame, concerns, beq_self_eq_true] at hOther
      cases hOther
  | _ => exact hMakes

end Step

namespace Session

open EngineState

/-! ## What a step puts under a name -/

/-- All engines of the session, and those of its templates, stand alone. -/
structure Standalone (s : Session Program) : Prop where
  engines : ∀ state ∈ s.engines, state.engine.Standalone
  templates : ∀ entry ∈ s.templates, entry.2.Standalone

/-- An operation that compiles with an engine and a path. -/
structure Makes (s : Session Program) (e : NumberedEngine Program)
    (path : Option String)
    (r : Except Failure (Compiled Program) × Session Program) : Prop where
  templates_eq : r.2.templates = s.templates
  madeBy : ∀ compiled, r.1 = .ok compiled → compiled.MadeBy e path

theorem makes_compile {s : Session Program} (hSound : s.Sound)
    (e : NumberedEngine Program) (markers : MarkerSet) (cache : Nat) (guard : Guard)
    (path : Option String)
    (source : Value) : s.Makes e path (s.compile e markers cache guard path source) :=
  ⟨rfl, fun _ hMade => compile_madeBy (sound_cacheAt hSound cache) hMade⟩

theorem makes_compileNative (s : Session Program) (e : NumberedEngine Program)
    (path : Option String) (source : Value) :
    s.Makes e path (s.compileNative e path source) :=
  ⟨rfl, fun _ hMade => @compileNative_madeBy _ e source path s.journal _ hMade⟩

theorem makes_error (s : Session Program) (e : NumberedEngine Program)
    (path : Option String) (fault : Failure) : s.Makes e path (.error fault, s) :=
  ⟨rfl, fun _ hMade => by cases hMade⟩

theorem makes_compileWith {s : Session Program} (hKept : s.Kept) {name : String}
    {number : Nat} {state : EngineState Program}
    (hEngine : s.engine? name = some (number, state)) (path : Option String)
    (source : Value) :
    s.Makes ⟨some number, state.engine⟩ path
      (s.compileWith number state path source) := by
  have hState : state = ofPatch state.engine state.patch? :=
    hKept.regular state (mem_engines hEngine)
  have hNative := s.makes_compileNative ⟨some number, state.engine⟩ path source
  have hCompile := s.compileWith_ofPatch number state.engine state.patch? path source
  rw [← hState] at hCompile
  rw [hCompile]
  split
  · exact makes_compile hKept.sound ..
  · exact hNative

theorem makes_compileTemplate {s : Session Program} (hKept : s.Kept)
    {r : CompileRequest Program} {number : Option Nat} {state : EngineState Program}
    (hChosen : s.chosen? r.engine = some (number, state)) :
    s.Makes ⟨number, state.engine⟩ r.path (s.compileTemplate r) := by
  unfold compileTemplate
  split
  · exact s.makes_error ..
  · split
    · exact s.makes_error ..
    · simp only [hChosen, compileTemplateWith, hKept.nativeMethod_eq hChosen]
      exact makes_compile hKept.sound ..

/-- The engine and the path that a step compiles a source with. -/
def origin? (s : Session Program) :
    Step Program → Option (NumberedEngine Program × Option String)
  | .compile name _ path _ =>
    (s.engine? name).map fun found => (⟨some found.1, found.2.engine⟩, path)
  | .compileTemplate r _ =>
    (s.chosen? r.engine).map fun found => (⟨found.1, found.2.engine⟩, r.path)
  | _ => none

/-- A step that compiles a source without an engine or a path to do so does nothing. -/
theorem perform_of_compiles? {s : Session Program} (hKept : s.Kept)
    {step : Step Program} {target : String} (hStep : step.compiles? = some target) :
    (s.perform step).2 = s ∧ (∀ d, (s.perform step).1 ≠ .ok (.description d)) ∨
      ∃ e path r, s.origin? step = some (e, path) ∧ s.Makes e path r ∧
        s.perform step = keep target r := by
  cases step with
  | compile name source path other =>
      obtain rfl := Option.some.inj hStep
      cases hEngine : s.engine? name with
      | none =>
          have hPerform : s.perform (.compile name source path other) =
              (.ok .nothing, s) := by
            simp only [perform, hEngine]
          rw [hPerform]
          exact .inl ⟨rfl, fun d hSame => by cases hSame⟩
      | some found =>
          refine .inr ⟨_, _, _, ?_, makes_compileWith hKept hEngine path source, ?_⟩
          · simp only [origin?, hEngine]
            rfl
          · simp only [perform, hEngine]
  | compileTemplate r other =>
      obtain rfl := Option.some.inj hStep
      cases hChosen : s.chosen? r.engine with
      | none =>
          have hError : ∃ fault, s.compileTemplate r = (.error fault, s) := by
            unfold compileTemplate
            rw [hChosen]
            split
            · exact ⟨_, rfl⟩
            · split <;> exact ⟨_, rfl⟩
          obtain ⟨fault, hError⟩ := hError
          have hPerform : s.perform (.compileTemplate r other) = (.error fault, s) :=
            congrArg (keep other) hError
          rw [hPerform]
          exact .inl ⟨rfl, fun d hSame => by cases hSame⟩
      | some found =>
          refine .inr ⟨_, _, _, ?_, makes_compileTemplate hKept hChosen, rfl⟩
          simp only [origin?, hChosen]
          rfl
  | _ => cases hStep

/-- What stands under names afterwards stood there before, but for one thing
at most. -/
def Puts (s : Session Program) (name? : Option String) (after : Session Program) :
    Prop :=
  after.templates = s.templates ∨
    ∃ name compiled, name? = some name ∧ compiled.Standalone ∧
      after.templates = putEntry name compiled s.templates

/-- What is kept is put under the name that it is kept under. -/
theorem puts_keep {s : Session Program}
    {r : Except Failure (Compiled Program) × Session Program}
    (hTemplates : r.2.templates = s.templates)
    (hMade : ∀ compiled, r.1 = .ok compiled → compiled.Standalone)
    (target : String) :
    s.Puts (some target) (keep target r).2 := by
  obtain ⟨answer, after⟩ := r
  cases answer with
  | error fault => exact .inl hTemplates
  | ok compiled =>
      exact .inr ⟨target, compiled, rfl, hMade compiled rfl,
        congrArg (putEntry target compiled) hTemplates⟩

theorem standalone_of_origin? {s : Session Program} (hStandalone : s.Standalone)
    {step : Step Program} (hEngines : ∀ e ∈ step.engines, e.Standalone)
    {e : NumberedEngine Program} {path : Option String}
    (hOrigin : s.origin? step = some (e, path)) : e.engine.Standalone := by
  have hKnown : ∀ {name number state}, s.engine? name = some (number, state) →
      state.engine.Standalone :=
    fun hEngine => hStandalone.engines _ (mem_engines hEngine)
  cases step with
  | compile name source other target =>
      obtain ⟨found, hEngine, hFound⟩ := Option.map_eq_some_iff.mp hOrigin
      obtain ⟨rfl, -⟩ := Prod.mk.inj hFound
      exact hKnown hEngine
  | compileTemplate r target =>
      obtain ⟨found, hChosen, hFound⟩ := Option.map_eq_some_iff.mp hOrigin
      obtain ⟨rfl, -⟩ := Prod.mk.inj hFound
      cases hChoice : r.engine with
      | named name =>
          rw [hChoice] at hChosen
          obtain ⟨known, hEngine, rfl⟩ := Option.map_eq_some_iff.mp hChosen
          exact hKnown hEngine
      | fresh fresh =>
          rw [hChoice] at hChosen
          obtain rfl := Option.some.inj hChosen
          refine hEngines fresh ?_
          simp only [Step.engines, hChoice]
          exact List.mem_singleton_self fresh
  | _ => cases hOrigin

/-- A rendering of a template gives it a program, and does nothing else. -/
theorem perform_render {s : Session Program} {target : String} {t : Template Program}
    (hBound : s.templates.lookup target = some (.template t))
    (hStandalone : t.Standalone) (r : RenderRequest) :
    s.perform (.render target r) =
      (((t.rendered (s.callOf r) t.currentProgram).1).map .text,
        { s with journal := (t.programOr s.journal).2 }.bind target
          (.template (t.rendered (s.callOf r) t.currentProgram).2.2)) := by
  obtain ⟨hInserted, -⟩ := t.rendered_standalone hStandalone (s.callOf r)
  simp only [perform, hBound, render, Template.render_eq, Template.programOr_fst,
    hInserted]
  rfl

theorem standalone_of_makeTemplate {s : Session Program} (hStandalone : s.Standalone)
    (r : TemplateRequest) : (s.makeTemplate r).2.templates = s.templates ∧
      ∀ compiled, (s.makeTemplate r).1 = .ok compiled → compiled.Standalone := by
  unfold makeTemplate
  split
  · exact ⟨rfl, fun _ hMade => by cases hMade⟩
  · split
    · exact ⟨rfl, fun _ hMade => by cases hMade⟩
    · rename_i number state hEngine
      refine ⟨rfl, fun compiled hMade => ?_⟩
      obtain ⟨t, hCreate, rfl⟩ := map_eq_ok hMade
      obtain ⟨⟨program, rfl⟩, hReaches⟩ := Template.create_eq_ok rfl hCreate
      exact ⟨hStandalone.engines state (mem_engines hEngine),
        hReaches⟩

/-- A rendering puts what was rendered back under its name. -/
theorem puts_render {s : Session Program} (hStandalone : s.Standalone) (target : String)
    (r : RenderRequest) : s.Puts (some target) (s.perform (.render target r)).2 := by
  cases hBound : s.templates.lookup target with
  | none =>
      refine .inl ?_
      simp only [perform, hBound]
  | some compiled =>
      have hCompiled := hStandalone.templates _ (mem_of_lookup hBound)
      cases compiled with
      | native engine program =>
          obtain ⟨hEngine, hReaches⟩ := hCompiled
          obtain ⟨hInserted, -⟩ := hEngine program hReaches (s.callOf r)
          refine .inr ⟨target,
            .native engine (engine.render program (s.callOf r)).program, rfl,
            ⟨hEngine, .render hReaches _⟩, ?_⟩
          simp only [perform, hBound, render, hInserted]
          rfl
      | template t =>
          rw [perform_render hBound hCompiled]
          exact .inr ⟨target,
            .template (t.rendered (s.callOf r) t.currentProgram).2.2, rfl,
            (t.rendered_standalone hCompiled (s.callOf r)).2.1, rfl⟩

/-- What a step puts under a name, the name is its own. -/
theorem puts_perform {s : Session Program} (hKept : s.Kept) (hStandalone : s.Standalone)
    {step : Step Program} (hEngines : ∀ e ∈ step.engines, e.Standalone) :
    s.Puts step.writes? (s.perform step).2 := by
  have hCompiles : ∀ {name}, step.compiles? = some name →
      s.Puts (some name) (s.perform step).2 := by
    intro name hName
    rcases perform_of_compiles? hKept hName with
      ⟨hSame, -⟩ | ⟨e, path, r, hOrigin, hMade, hPerform⟩
    · exact .inl (congrArg _ hSame)
    · have hEngine := standalone_of_origin? hStandalone hEngines hOrigin
      rw [hPerform]
      exact puts_keep hMade.templates_eq
        (fun compiled hCompiled => (hMade.madeBy compiled hCompiled).standalone hEngine)
        name
  cases step with
  | compile name source path target => exact hCompiles rfl
  | compileTemplate r target => exact hCompiles rfl
  | makeTemplate r target =>
      obtain ⟨hTemplates, hMade⟩ := standalone_of_makeTemplate hStandalone r
      exact puts_keep hTemplates hMade target
  | render target r => exact puts_render hStandalone target r
  | cacheSame name first second =>
      refine .inl ?_
      simp only [perform, cacheSame_eq hKept.sound (hKept.cacheNumber_lt (some name))]
      rfl
  | rewrite source isEscaping text cache =>
      refine .inl ?_
      simp only [perform, rewrite, matcher_eq hKept.sound]
      cases matcherOf source <;> rfl
  | install name delimiters cache =>
      refine .inl ?_
      simp only [perform, install]
      split
      · rfl
      · split <;> rfl
  | uninstall name =>
      refine .inl ?_
      simp only [perform, uninstall]
      split <;> rfl
  | inspect target =>
      refine .inl ?_
      simp only [perform]
      split <;> rfl
  | _ => exact .inl rfl

/-! ## Sessions of engines that stand alone -/

theorem standalone_enginesBy {s : Session Program} (hStandalone : s.Standalone)
    {step : Step Program} (hEngines : ∀ e ∈ step.engines, e.Standalone) :
    ∀ state ∈ s.enginesBy step, state.engine.Standalone := by
  have hSet : ∀ number state, state.engine.Standalone →
      ∀ other ∈ s.engines.set number state, other.engine.Standalone :=
    fun number state hState other hMem => by
      rcases List.mem_or_eq_of_mem_set hMem with hOld | rfl
      · exact hStandalone.engines other hOld
      · exact hState
  unfold enginesBy
  split
  · rename_i name e
    intro state hMem
    rcases List.mem_append.mp hMem with hOld | hNew
    · exact hStandalone.engines state hOld
    · rw [List.mem_singleton.mp hNew]
      exact hEngines e (List.mem_singleton_self e)
  · split
    · rename_i markers number state _ hEngine
      exact hSet _ _ (hStandalone.engines state (mem_engines hEngine))
    · exact hStandalone.engines
  · split
    · rename_i number engine method native hEngine
      have hOld := hStandalone.engines _ (mem_engines hEngine)
      exact hSet _ _ hOld
    · exact hStandalone.engines
  · exact hStandalone.engines

theorem standalone_perform {s : Session Program} (hKept : s.Kept)
    (hStandalone : s.Standalone) {step : Step Program}
    (hEngines : ∀ e ∈ step.engines, e.Standalone) :
    (s.perform step).2.Standalone := by
  constructor
  · rw [engines_perform]
    exact standalone_enginesBy hStandalone hEngines
  · rcases puts_perform hKept hStandalone hEngines with
      hSame | ⟨name, compiled, -, hCompiled, hPut⟩
    · rw [hSame]
      exact hStandalone.templates
    · rw [hPut]
      intro entry hMem
      rcases mem_putEntry hMem with hNew | hOld
      · rw [hNew]
        exact hCompiled
      · exact hStandalone.templates entry hOld

/-- The journal is not part of the invariant. -/
theorem Standalone.quiet {s : Session Program} (hStandalone : s.Standalone) :
    s.quiet.Standalone :=
  ⟨hStandalone.engines, hStandalone.templates⟩

/-- The session after some more steps. -/
def after (s : Session Program) (later : List (Step Program)) : Session Program :=
  later.foldl (fun s step => (s.advance step).2) s

theorem reached_append (steps later : List (Step Program)) :
    (reached (steps ++ later) : Session Program) = (reached steps).after later :=
  List.foldl_append

theorem standalone_after {later : List (Step Program)} {s : Session Program}
    (hKept : s.Kept) (hStandalone : s.Standalone)
    (hEngines : ∀ step ∈ later, ∀ e ∈ step.engines, e.Standalone) :
    (s.after later).Standalone := by
  induction later generalizing s with
  | nil => exact hStandalone
  | cons step later ih =>
      exact ih (kept_perform hKept.quiet step)
        (standalone_perform hKept.quiet hStandalone.quiet
          (hEngines step List.mem_cons_self))
        fun other hMem => hEngines other (List.mem_cons_of_mem _ hMem)

theorem standalone_empty : (empty : Session Program).Standalone where
  engines state hMem := by cases hMem
  templates entry hMem := by cases hMem

theorem standalone_reached {steps : List (Step Program)}
    (hEngines : ∀ step ∈ steps, ∀ e ∈ step.engines, e.Standalone) :
    (reached steps : Session Program).Standalone :=
  standalone_after kept_empty standalone_empty hEngines

/-! ## A template under a name -/

/-- A template stands under a name. -/
def Bound (s : Session Program) (target : String) (t : Template Program) : Prop :=
  s.templates.lookup target = some (.template t)

/-- A step that has nothing to do with a name leaves alone what stands there. -/
theorem Bound.perform {s : Session Program} {target : String} {t : Template Program}
    (hBound : s.Bound target t) (hKept : s.Kept) (hStandalone : s.Standalone)
    {step : Step Program} (hEngines : ∀ e ∈ step.engines, e.Standalone)
    (hWrites : step.writes? ≠ some target) : (s.perform step).2.Bound target t := by
  unfold Bound
  rcases puts_perform hKept hStandalone hEngines with
    hSame | ⟨name, compiled, hName, -, hPut⟩
  · rw [hSame]
    exact hBound
  · have hApart : (target == name) = false := by
      rw [beq_eq_false_iff_ne]
      rintro rfl
      exact hWrites hName
    rw [hPut, lookup_putEntry, hApart]
    exact hBound

theorem bound_bind (s : Session Program) (target : String) (t : Template Program) :
    (s.bind target (.template t)).Bound target t := by
  unfold Bound bind
  rw [lookup_putEntry, beq_self_eq_true]
  rfl

theorem callOf_alike (s u : Session Program) (r : RenderRequest) :
    (s.callOf r).Alike (u.callOf r) := by
  -- the names are the same whatever inserting a template would give
  have hNames : ∀ (v : Session Program),
      (v.callOf r).partials.map (·.map Prod.fst) =
        r.partials.map (·.map Prod.fst) := by
    intro v
    cases hPartials : r.partials with
    | none => simp [callOf, hPartials]
    | some names => simp [callOf, hPartials]
  exact ⟨rfl, rfl, (hNames u).trans (hNames s).symm⟩

/-- A step that looks at a template finds the same in every session where the
template stands. -/
theorem perform_of_concerns {s u : Session Program} {target : String}
    {t : Template Program} (hLeft : s.Bound target t) (hRight : u.Bound target t)
    (hStandalone : t.Standalone) (hCalls : u.journal.calls = s.journal.calls)
    {step : Step Program} (hConcerns : step.concerns target = true) :
    (u.perform step).1 = (s.perform step).1 ∧
      (u.perform step).2.journal.calls = (s.perform step).2.journal.calls ∧
      ∃ program, (s.perform step).2.Bound target { t with program := program } ∧
        (u.perform step).2.Bound target { t with program := program } := by
  cases step with
  | inspect name =>
      obtain rfl := beq_iff_eq.mp hConcerns
      have hInspect : ∀ {v : Session Program}, v.Bound name t →
          v.perform (.inspect name) =
            (.ok (.description (Compiled.template t).description), v) :=
        fun {v} (hBound : v.templates.lookup name = _) => by simp only [perform, hBound]
      rw [hInspect hLeft, hInspect hRight]
      exact ⟨rfl, hCalls, t.program, hLeft, hRight⟩
  | render name r =>
      obtain rfl := beq_iff_eq.mp hConcerns
      obtain ⟨-, -, ⟨program, hAfter⟩, hSame⟩ :=
        t.rendered_standalone hStandalone (s.callOf r)
      rw [perform_render hLeft hStandalone, perform_render hRight hStandalone,
        hSame _ (s.callOf_alike u r), hAfter]
      refine ⟨rfl, ?_, program, bound_bind .., bound_bind ..⟩
      show (t.programOr u.journal).2.calls = (t.programOr s.journal).2.calls
      rw [t.calls_programOr, t.calls_programOr, hCalls]
  | _ => cases hConcerns

/-! ## Runs with and without other steps -/

/-- The answers to the steps that look at what stands under a name, each with
the calls that engines got in the step. -/
def turnsOf (target : String) :
    List (Step Program) → Session Program →
    List (Except Failure Answer × List CompileCall)
  | [], _ => []
  | step :: later, s =>
    let (report, after) := s.advance step
    if step.concerns target then
      (report.answer, after.journal.calls) :: turnsOf target later after
    else turnsOf target later after

/-- A run and the run of those of its steps alone that look at a template give
the same, and end with the same template: the one at the start, with the
program that was kept. -/
theorem turnsOf_filter (target : String) (later : List (Step Program))
    {s u : Session Program} {t : Template Program} (hKept : s.Kept)
    (hStandalone : s.Standalone) (hLeft : s.Bound target t) (hRight : u.Bound target t)
    (hEngines : ∀ step ∈ later, ∀ e ∈ step.engines, e.Standalone)
    (hMakes : ∀ step ∈ later, step.makes? ≠ some target) :
    turnsOf target later s = turnsOf target (later.filter (·.concerns target)) u ∧
      ∃ program, (s.after later).Bound target { t with program := program } ∧
        (u.after (later.filter (·.concerns target))).Bound target
          { t with program := program } := by
  induction later generalizing s u t with
  | nil => exact ⟨rfl, t.program, hLeft, hRight⟩
  | cons step later ih =>
      have hKept' := kept_perform hKept.quiet step
      have hStandalone' := standalone_perform hKept.quiet hStandalone.quiet
        (hEngines step List.mem_cons_self)
      have hEngines' : ∀ other ∈ later, ∀ e ∈ other.engines, e.Standalone :=
        fun other hMem => hEngines other (List.mem_cons_of_mem _ hMem)
      have hMakes' : ∀ other ∈ later, other.makes? ≠ some target :=
        fun other hMem => hMakes other (List.mem_cons_of_mem _ hMem)
      cases hConcerns : step.concerns target with
      | true =>
          have hTemplate : t.Standalone := hStandalone.templates _ (mem_of_lookup hLeft)
          obtain ⟨hAnswer, hCalls, program, hLeft', hRight'⟩ :=
            @perform_of_concerns _ s.quiet u.quiet target t hLeft hRight hTemplate rfl
              step hConcerns
          obtain ⟨hTurns, hEnd⟩ :=
            ih hKept' hStandalone' hLeft' hRight' hEngines' hMakes'
          rw [List.filter_cons_of_pos hConcerns]
          refine ⟨?_, hEnd⟩
          simp only [turnsOf, hConcerns, if_true]
          exact congrArg₂ List.cons (congrArg₂ Prod.mk hAnswer.symm hCalls.symm)
            hTurns
      | false =>
          -- the other run does not take this step
          have hLeft' : (s.advance step).2.Bound target t :=
            @Bound.perform _ s.quiet target t hLeft hKept.quiet hStandalone.quiet step
              (hEngines step List.mem_cons_self)
              (Step.writes?_ne (hMakes step List.mem_cons_self) hConcerns)
          obtain ⟨hTurns, hEnd⟩ :=
            ih hKept' hStandalone' hLeft' hRight hEngines' hMakes'
          rw [List.filter_cons_of_neg (by simp [hConcerns])]
          refine ⟨?_, hEnd⟩
          simp only [turnsOf, hConcerns]
          exact hTurns

/-! ## Templates that were compiled in a session -/

/-- A step compiles a template, and it stands under a name afterwards. -/
structure Creates (s : Session Program) (step : Step Program) (target : String)
    (t : Template Program) : Prop where
  compiles_eq : step.compiles? = some target
  answer_eq : (s.advance step).1.answer =
    .ok (.description (Compiled.template t).description)
  bound : (s.advance step).2.Bound target t

theorem creates_of_compileTemplate {s : Session Program} {r : CompileRequest Program}
    {t : Template Program} (hMade : (s.quiet.compileTemplate r).1 = .ok (.template t))
    (target : String) : s.Creates (.compileTemplate r target) target t := by
  have hPerform : s.quiet.perform (.compileTemplate r target) =
      (.ok (.description (Compiled.template t).description),
        (s.quiet.compileTemplate r).2.bind target (.template t)) :=
    congrArg (fun answer => keep target (answer, (s.quiet.compileTemplate r).2)) hMade
  refine ⟨rfl, ?_, ?_⟩
  · exact congrArg Prod.fst hPerform
  · unfold advance
    rw [hPerform]
    exact bound_bind ..

/-- What was compiled has the engine and the path that it was compiled with,
and is named for the path. -/
theorem Creates.origin_eq {s : Session Program} (hKept : s.Kept) {step : Step Program}
    {target : String} {t : Template Program} (hCreates : s.Creates step target t) :
    s.origin? step = some (t.engine, t.path) ∧ t.name = t.path := by
  rcases perform_of_compiles? hKept.quiet hCreates.compiles_eq with
    ⟨-, hNothing⟩ | ⟨e, path, ⟨answer, made⟩, hOrigin, hMade, hPerform⟩
  · exact absurd hCreates.answer_eq (hNothing _)
  · have hAnswer : (s.quiet.perform step).1 = _ := hCreates.answer_eq
    have hBound : (s.quiet.perform step).2.Bound target t := hCreates.bound
    rw [hPerform] at hAnswer hBound
    cases answer with
    | error fault => cases hAnswer
    | ok compiled =>
        have hSame : compiled = .template t := by
          change (made.bind target compiled).templates.lookup target = _ at hBound
          rw [bind, lookup_putEntry, beq_self_eq_true] at hBound
          exact Option.some.inj hBound
        obtain ⟨rfl, rfl, hName, -⟩ : Compiled.MadeBy e path (.template t) :=
          hSame ▸ hMade.madeBy compiled rfl
        exact ⟨hOrigin, hName⟩

/-- A rendering of a template that is not compiled has its engine compile the
native text of the template with its path. -/
theorem calls_render {s : Session Program} {target : String} {t : Template Program}
    (hBound : s.Bound target t) (hStandalone : t.Standalone) (r : RenderRequest) :
    (s.advance (.render target r)).2.journal.calls =
      if t.isCompiled then [] else t.buildCalls := by
  have hPerform := @perform_render _ s.quiet target t hBound hStandalone r
  unfold advance
  rw [hPerform]
  exact t.calls_programOr s.quiet.journal

/-- Templates that were compiled, with `compileTemplate` or with an engine that
is patched, in any session whose engines stand alone, and any steps from then
on that put nothing else under the name.

The template has the engine and the path that it was compiled with.  All that
is asked of it is answered, and gets the engines called, as if nothing else was
done from then on.  It stays what it was, but for the program that is kept, and
as long as there is none a rendering has that engine compile the same text with
the same path. -/
theorem templates_are_settled {before later : List (Step Program)}
    {create : Step Program} {target : String} {t : Template Program}
    (hEngines : ∀ step ∈ before ++ create :: later, ∀ e ∈ step.engines,
      e.Standalone)
    (hCreates : (reached before).Creates create target t)
    (hMakes : ∀ step ∈ later, step.makes? ≠ some target) :
    let made : Session Program := reached (before ++ [create])
    let own := later.filter fun step => step.concerns target
    (reached before).origin? create = some (t.engine, t.path) ∧ t.name = t.path ∧
      turnsOf target later made = turnsOf target own made ∧
      ∃ t' : Template Program, t' = { t with program := t'.program } ∧
        (made.after later).Bound target t' ∧ (made.after own).Bound target t' ∧
        t'.nativeSource = t.nativeSource ∧
        ∀ r, ((made.after later).advance (.render target r)).2.journal.calls =
          if t'.isCompiled then [] else t.buildCalls := by
  intro made own
  have hBefore : ∀ step ∈ before ++ [create], ∀ e ∈ step.engines,
    e.Standalone := by
    intro step hMem
    refine hEngines step ?_
    rw [List.append_cons]
    exact List.mem_append_left _ hMem
  have hLater : ∀ step ∈ later, ∀ e ∈ step.engines, e.Standalone :=
    fun step hMem =>
    hEngines step (List.mem_append_right _ (List.mem_cons_of_mem _ hMem))
  have hKept : made.Kept := (kept_reached _).1
  have hStandalone : made.Standalone := standalone_reached hBefore
  have hBound : made.Bound target t := by
    have hMade : made = ((reached before).advance create).2 :=
      reached_append before [create]
    rw [hMade]
    exact hCreates.bound
  obtain ⟨hOrigin, hName⟩ := hCreates.origin_eq (kept_reached before).1
  obtain ⟨hTurns, program, hEnd, hOwnEnd⟩ :=
    turnsOf_filter target later hKept hStandalone hBound hBound hLater hMakes
  have hTemplate :=
    (standalone_after hKept hStandalone hLater).templates _ (mem_of_lookup hEnd)
  exact ⟨hOrigin, hName, hTurns, { t with program := program }, rfl, hEnd, hOwnEnd,
    rfl, calls_render hEnd hTemplate⟩

/-- A template of two kinds of tags, compiled with an engine that is patched,
is rendered before and after other steps. -/
theorem templates_are_settled_between_patches :
    let pair : Value := .list [.text "<%", .text "%>"]
    let pairs : Value := .list [.text "<%", .text "%>", .text "<<%", .text "%>>"]
    let before : List (Step Retag.Program) :=
      [.makeEngine "probe" (.probe .count 0), .install "probe" pair none]
    let create : Step Retag.Program :=
      .compileTemplate ⟨.text "<% a %> and <<% b %>>", pairs, .named "probe", none,
        none, some "page.html"⟩ "page"
    let render : Step Retag.Program := .render "page" ⟨.dict [], none, none⟩
    let later : List (Step Retag.Program) :=
      [.uninstall "probe", .cacheClear "default", render,
        .install "probe" (.list []) none,
        .compile "probe" (.text "<% c %>") none "other",
        .render "other" ⟨.dict [], none, none⟩,
        .makeEngine "second" (.probe .source 0), .install "probe" pairs none,
        .rewrite "<%(.)%>".toList true "<%d%>".toList none, render]
    (∀ step ∈ before ++ create :: later, ∀ e ∈ step.engines, e.Standalone) ∧
      (∀ step ∈ later, step.makes? ≠ some "page") ∧
      ∃ t : Template Retag.Program, (reached before).Creates create "page" t ∧
        t.isCompiled = false ∧
        turnsOf "page" later (reached (before ++ [create])) =
          turnsOf "page" [render, render] (reached (before ++ [create])) := by
  intro pair pairs before create render later
  have hAnswer :
      ((((reached before).quiet.compileTemplate
        ⟨.text "<% a %> and <<% b %>>", pairs, .named "probe", none, none,
          some "page.html"⟩).1.toOption.bind Compiled.template?).map
        Template.isCompiled) = some false := by
    decide +kernel
  obtain ⟨t, hTemplate, hLazy⟩ := Option.map_eq_some_iff.mp hAnswer
  obtain ⟨compiled, hMade, hSame⟩ := Option.bind_eq_some_iff.mp hTemplate
  rw [Compiled.template?_eq_some.mp hSame] at hMade
  have hCreates := creates_of_compileTemplate (ok_of_toOption hMade) "page"
  have hEngines : ∀ step ∈ before ++ create :: later, ∀ e ∈ step.engines,
    e.Standalone := by
    simp [before, create, later, render, Step.engines, Engine.standalone_probe]
  have hMakes : ∀ step ∈ later, step.makes? ≠ some "page" := by
    simp [later, render, Step.makes?, Step.compiles?]
  obtain ⟨-, -, hTurns, -⟩ := templates_are_settled hEngines hCreates hMakes
  exact ⟨hEngines, hMakes, t, hCreates, hLazy, hTurns⟩

end Session

end Retag

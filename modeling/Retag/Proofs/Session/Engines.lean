import Retag.Session.Step

/-!
# The engines of a session

Only three kinds of steps touch the engines of a session: an engine is made,
its method is replaced, or the method that was saved comes back.  That all
others leave them alone is `Keeps`, which is put together from the operations
of a session.  Rendering does not even look at engines: it does the same
whatever engines the session has.

## Main results

* `engines_perform`: what a step does to the engines.
* `perform_render_withEngines`: rendering does not look at engines.
-/

namespace Retag

variable {Program : Type}

namespace Session

/-! ## Operations that leave engines alone -/

/-- The second session has the engines of the first one. -/
structure Keeps (s t : Session Program) : Prop where
  engines : t.engines = s.engines
  names : t.engineNames = s.engineNames

@[simp] theorem Keeps.refl (s : Session Program) : s.Keeps s := ⟨rfl, rfl⟩

theorem Keeps.trans {s t u : Session Program} (hFirst : s.Keeps t)
    (hSecond : t.Keeps u) :
    s.Keeps u :=
  ⟨hSecond.engines.trans hFirst.engines, hSecond.names.trans hFirst.names⟩

theorem keeps_compileTemplateWith (s : Session Program) (number : Option Nat)
    (state : EngineState Program) (markers : MarkerSet) (cache : Nat) (guard : Guard)
    (path : Option String) (source : Value) :
    s.Keeps (s.compileTemplateWith number state markers cache guard path source).2 := by
  unfold compileTemplateWith
  cases state.nativeMethod with
  | own => exact ⟨rfl, rfl⟩
  | patched patch native => exact .refl s

theorem keeps_compileBy (s : Session Program) (number : Nat)
    (state : EngineState Program) (path : Option String) (source : Value)
    (method : CompileMethod) :
    s.Keeps (s.compileBy number state path source method).2 := by
  induction method with
  | own => exact ⟨rfl, rfl⟩
  | patched patch native ih =>
      unfold compileBy
      split
      · exact s.keeps_compileTemplateWith ..
      · exact ih

theorem keeps_keep {s : Session Program} (target : String)
    {r : Except Failure (Compiled Program) × Session Program} (hKeeps : s.Keeps r.2) :
    s.Keeps (keep target r).2 := by
  obtain ⟨answer, t⟩ := r
  cases answer with
  | ok compiled => exact ⟨hKeeps.engines, hKeeps.names⟩
  | error e => exact hKeeps

theorem keeps_compileTemplate (s : Session Program) (r : CompileRequest Program) :
    s.Keeps (s.compileTemplate r).2 := by
  unfold compileTemplate
  split
  · exact .refl s
  · split
    · exact .refl s
    · split
      · exact .refl s
      · exact s.keeps_compileTemplateWith ..

theorem keeps_makeTemplate (s : Session Program) (r : TemplateRequest) :
    s.Keeps (s.makeTemplate r).2 := by
  unfold makeTemplate
  split
  · exact .refl s
  · split
    · exact .refl s
    · exact ⟨rfl, rfl⟩

theorem keeps_matcher {s t : Session Program} {number : Nat} {source : Text}
    {answer : Except Failure Regex} (hMatcher : s.matcher number source = (answer, t)) :
    s.Keeps t := by
  obtain ⟨-, rfl⟩ := Prod.mk.inj hMatcher
  exact ⟨rfl, rfl⟩

theorem keeps_cacheSame (s : Session Program) (number : Nat) (first second : Text) :
    s.Keeps (s.cacheSame number first second).2 := by
  unfold cacheSame
  split
  · rename_i hFirst
    exact keeps_matcher hFirst
  · rename_i hFirst
    split
    · rename_i hSecond
      exact (keeps_matcher hFirst).trans (keeps_matcher hSecond)
    · rename_i hSecond
      exact (keeps_matcher hFirst).trans (keeps_matcher hSecond)

theorem keeps_rewrite (s : Session Program) (source : Text) (isEscaping : Bool)
    (text : Text)
    (cache : Option String) : s.Keeps (s.rewrite source isEscaping text cache).2 := by
  unfold rewrite
  split
  · rename_i hMatcher
    exact keeps_matcher hMatcher
  · rename_i hMatcher
    exact keeps_matcher hMatcher

theorem keeps_ensureCompiled (s : Session Program) (name : String) :
    s.Keeps (s.ensureCompiled name) := by
  unfold ensureCompiled
  split
  · split
    · exact ⟨rfl, rfl⟩
    · exact ⟨rfl, rfl⟩
  · exact .refl s

theorem keeps_ensureInserted (s : Session Program) (names : InclusionNames)
    (inserted : List String) : s.Keeps (s.ensureInserted names inserted) := by
  unfold ensureInserted
  generalize inserted.filterMap (fun name => names.lookup name) = found
  induction found generalizing s with
  | nil => exact .refl s
  | cons name found ih => exact (s.keeps_ensureCompiled name).trans (ih _)

theorem keeps_render (s : Session Program) (name : String) (compiled : Compiled Program)
    (r : RenderRequest) : s.Keeps (s.render name compiled r).2 := by
  cases compiled with
  | native engine program =>
      have hBind : s.Keeps (s.bind name
        (.native engine (engine.render program (s.callOf r)).program)) := ⟨rfl, rfl⟩
      exact hBind.trans (keeps_ensureInserted ..)
  | template t =>
      have hBind :
          s.Keeps ({ s with journal := (t.render (s.callOf r) s.journal).journal }.bind
        name (.template (t.render (s.callOf r) s.journal).template)) := ⟨rfl, rfl⟩
      exact hBind.trans (keeps_ensureInserted ..)

/-! ## Steps -/

theorem engine?_eq_some {s : Session Program} {name : String} {number : Nat}
    {state : EngineState Program} :
    s.engine? name = some (number, state) ↔
      s.engineNames.lookup name = some number ∧ s.engines[number]? = some state := by
  unfold engine?
  constructor
  · intro hEngine
    obtain ⟨found, hName, hRest⟩ := Option.bind_eq_some_iff.mp hEngine
    obtain ⟨present, hState, hSome⟩ := Option.bind_eq_some_iff.mp hRest
    obtain ⟨rfl, rfl⟩ := Prod.mk.inj (Option.some.inj hSome)
    exact ⟨hName, hState⟩
  · rintro ⟨hName, hState⟩
    simp [hName, hState]

theorem mem_engines {s : Session Program} {name : String} {number : Nat}
    {state : EngineState Program} (hEngine : s.engine? name = some (number, state)) :
    state ∈ s.engines :=
  List.mem_of_getElem? (engine?_eq_some.mp hEngine).2

/-- What a step does to the engines of a session. -/
def enginesBy (s : Session Program) : Step Program → List (EngineState Program)
  | .makeEngine _ e => s.engines ++ [.unpatched e]
  | .install name delimiters cache =>
    match MarkerSet.ofValue delimiters, s.engine? name with
    | .ok markers, some (number, state) =>
      s.engines.set number (state.patchWith ⟨markers, s.cacheNumber cache⟩)
    | _, _ => s.engines
  | .uninstall name =>
    match s.engine? name with
    | some (number, ⟨engine, _, some native⟩) =>
        s.engines.set number ⟨engine, native, none⟩
    | _ => s.engines
  | _ => s.engines

/-- A step does to the engines what its kind says. -/
theorem engines_perform (s : Session Program) (step : Step Program) :
    (s.perform step).2.engines = s.enginesBy step := by
  cases step with
  | makeEngine name e => rfl
  | makeCache name => rfl
  | cacheGet name source => rfl
  | cacheSize name => rfl
  | cacheHas name source => rfl
  | cacheClear name => rfl
  | cacheSame name first second => exact (s.keeps_cacheSame ..).engines
  | rewrite source isEscaping text cache => exact (s.keeps_rewrite ..).engines
  | install name delimiters cache =>
      simp only [perform, install, enginesBy]
      cases MarkerSet.ofValue delimiters with
      | error e => rfl
      | ok markers =>
          rcases s.engine? name with _ | ⟨number, state⟩
          · rfl
          · rfl
  | uninstall name =>
      simp only [perform, uninstall, enginesBy]
      rcases s.engine? name with _ | ⟨number, engine, method, _ | native⟩
      · rfl
      · rfl
      · rfl
  | isPatched name => rfl
  | compile name source path target =>
      simp only [perform, enginesBy]
      split
      · rfl
      · exact (keeps_keep target (s.keeps_compileBy ..)).engines
  | compileTemplate r target =>
      exact (keeps_keep target (s.keeps_compileTemplate r)).engines
  | makeTemplate r target => exact (keeps_keep target (s.keeps_makeTemplate r)).engines
  | inspect target =>
      simp only [perform, enginesBy]
      split <;> rfl
  | render target r =>
      simp only [perform, enginesBy]
      split
      · rfl
      · exact (s.keeps_render ..).engines

/-! ## Sessions with other engines -/

/-- The session with other engines. -/
def withEngines (s : Session Program) (engines : List (EngineState Program)) :
    Session Program :=
  { s with engines := engines }

theorem compile_withEngines (s : Session Program) (engines : List (EngineState Program))
    (e : NumberedEngine Program) (markers : MarkerSet) (cache : Nat) (guard : Guard)
    (path : Option String) (source : Value) :
    (s.withEngines engines).compile e markers cache guard path source =
      ((s.compile e markers cache guard path source).1,
        (s.compile e markers cache guard path source).2.withEngines engines) := rfl

theorem keep_withEngines (target : String)
    (r : Except Failure (Compiled Program) × Session Program)
    (engines : List (EngineState Program)) :
    keep target (r.1, r.2.withEngines engines) =
      ((keep target r).1, (keep target r).2.withEngines engines) := by
  obtain ⟨answer, s⟩ := r
  cases answer <;> rfl

/-- What is inserted is looked up among the templates. -/
theorem inclusion_of_templates {s t : Session Program}
    (hTemplates : t.templates = s.templates)
    (helpers : Option (List Mustache.Helper)) (names : InclusionNames) (depth : Nat) :
    t.inclusion helpers names depth = s.inclusion helpers names depth := by
  induction depth with
  | zero => rfl
  | succ depth ih =>
      have hIncluded : t.included? names = s.included? names := by
        funext name
        unfold included?
        rw [hTemplates]
      funext name c
      simp only [inclusion, ih, hIncluded]

theorem callOf_of_templates {s t : Session Program}
    (hTemplates : t.templates = s.templates)
    (r : RenderRequest) : t.callOf r = s.callOf r := by
  simp only [callOf, inclusion_of_templates hTemplates]

theorem ensureCompiled_withEngines (s : Session Program)
    (engines : List (EngineState Program)) (name : String) :
    (s.withEngines engines).ensureCompiled name =
      (s.ensureCompiled name).withEngines engines := by
  have hTemplates : (s.withEngines engines).templates = s.templates := rfl
  have hJournal : (s.withEngines engines).journal = s.journal := rfl
  unfold ensureCompiled
  rw [hTemplates, hJournal]
  split
  · split
    · rfl
    · rfl
  · rfl

theorem ensureInserted_withEngines (s : Session Program)
    (engines : List (EngineState Program)) (names : InclusionNames)
    (inserted : List String) :
    (s.withEngines engines).ensureInserted names inserted =
      (s.ensureInserted names inserted).withEngines engines := by
  unfold ensureInserted
  generalize inserted.filterMap (fun name => names.lookup name) = found
  induction found generalizing s with
  | nil => rfl
  | cons name found ih =>
      rw [List.foldl_cons, List.foldl_cons, ensureCompiled_withEngines, ih]

/-- Rendering does not look at engines. -/
theorem perform_render_withEngines (s : Session Program)
    (engines : List (EngineState Program)) (target : String) (r : RenderRequest) :
    (s.withEngines engines).perform (.render target r) =
      ((s.perform (.render target r)).1,
        (s.perform (.render target r)).2.withEngines engines) := by
  have hTemplates : (s.withEngines engines).templates = s.templates := rfl
  have hCall := callOf_of_templates hTemplates r
  simp only [perform, hTemplates]
  cases s.templates.lookup target with
  | none => rfl
  | some compiled =>
      cases compiled with
      | native engine program =>
          simp only [render, hCall, ← ensureInserted_withEngines]
          rfl
      | template t =>
          simp only [render, hCall, ← ensureInserted_withEngines]
          rfl

end Session

end Retag

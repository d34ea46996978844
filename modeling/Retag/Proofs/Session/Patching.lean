import Retag.Proofs.Session.Engines

/-!
# Patched engines

Whether an engine is patched is kept in three places: its compile method, the
method that was saved, and the method that every patch keeps for the values
it does not read.  In every session that can be reached the three agree, and
there is one thing to know about an engine: the patch it has, if it has one.
The saved method and the methods kept by patches are always the engine's own,
so no patch ever hands a value on to another one.

The invariant is kept step by step, from what a step does to the engines.

## Main results

* `regular_reached`: the invariant of the sessions that can be reached.
* `engines_are_machines`: engines as machines with an optional patch.
-/

namespace Retag

open Log

variable {Program : Type}

/-! ## Engines -/

namespace EngineState

/-- An engine with a patch, or without one. -/
def ofPatch (e : Engine Program) : Option Patch → EngineState Program
  | none => .unpatched e
  | some patch => ⟨e, .patched patch .own, some .own⟩

/-- The patch that an engine reads texts with. -/
def patch? (state : EngineState Program) : Option Patch :=
  match state.method with
  | .own => none
  | .patched patch _ => some patch

/-- There is nothing to know about the engine but its patch. -/
def Regular (state : EngineState Program) : Prop :=
  state = ofPatch state.engine state.patch?

@[simp] theorem engine_ofPatch (e : Engine Program) (patch : Option Patch) :
    (ofPatch e patch).engine = e := by
  cases patch <;> rfl

@[simp] theorem patch?_ofPatch (e : Engine Program) (patch : Option Patch) :
    (ofPatch e patch).patch? = patch := by
  cases patch <;> rfl

theorem regular_ofPatch (e : Engine Program) (patch : Option Patch) :
    (ofPatch e patch).Regular := by
  unfold Regular
  rw [engine_ofPatch, patch?_ofPatch]

/-- Templates are compiled with the engine's own method. -/
theorem nativeMethod_ofPatch (e : Engine Program) (patch : Option Patch) :
    (ofPatch e patch).nativeMethod = .own := by
  cases patch <;> rfl

/-- A patch replaces the one before it. -/
theorem patchWith_ofPatch (e : Engine Program) (before : Option Patch) (patch : Patch) :
    (ofPatch e before).patchWith patch = ofPatch e (some patch) := by
  cases before <;> rfl

end EngineState

namespace Session

open EngineState

/-! ## Sessions that can be reached -/

/-- The session after some steps. -/
def reached (steps : List (Step Program)) : Session Program :=
  steps.foldl (fun s step => (s.advance step).2) .empty

/-- All engines are known by their patches. -/
def Regular (s : Session Program) : Prop := ∀ state ∈ s.engines, state.Regular

theorem regular_perform {s : Session Program} (hRegular : s.Regular)
    (step : Step Program) :
    (s.perform step).2.Regular := by
  have hSet : ∀ number state, state.Regular →
    ∀ other ∈ s.engines.set number state,
      other.Regular := fun number state hState other hMem => by
    rcases List.mem_or_eq_of_mem_set hMem with hOld | rfl
    · exact hRegular other hOld
    · exact hState
  unfold Regular
  rw [engines_perform]
  unfold enginesBy
  split
  · intro state hMem
    rcases List.mem_append.mp hMem with hOld | hNew
    · exact hRegular state hOld
    · rw [List.mem_singleton.mp hNew]
      exact regular_ofPatch _ none
  · split
    · rename_i markers number state hValue hEngine
      have hState := hRegular state (mem_engines hEngine)
      refine hSet _ _ ?_
      rw [hState, patchWith_ofPatch]
      exact regular_ofPatch _ _
    · exact hRegular
  · split
    · rename_i number engine method native hEngine
      have hState := hRegular _ (mem_engines hEngine)
      refine hSet _ _ ?_
      -- the saved method is that of `ofPatch`, so restoring it forgets the patch
      cases method with
      | own => cases hState
      | patched patch kept =>
          cases hState
          exact regular_ofPatch engine none
    · exact hRegular
  · exact hRegular

theorem regular_reached (steps : List (Step Program)) : (reached steps).Regular := by
  have hKeeps : ∀ s : Session Program, s.Regular →
      (steps.foldl (fun s step => (s.advance step).2) s).Regular := by
    induction steps with
    | nil => exact fun _ hRegular => hRegular
    | cons step steps ih =>
        intro s hRegular
        have hQuiet : s.quiet.Regular := hRegular
        exact ih _ (regular_perform hQuiet step)
  refine hKeeps .empty fun state hMem => ?_
  cases hMem

/-! ## The patches of a session -/

/-- The patches of the engines, by number. -/
def patches (s : Session Program) : List (Option Patch) :=
  s.engines.map EngineState.patch?

/-- What a step does to the patches. -/
def patchesBy (s : Session Program) : Step Program → List (Option Patch)
  | .makeEngine .. => s.patches ++ [none]
  | .install name delimiters cache =>
    match MarkerSet.ofValue delimiters, s.engineNames.lookup name with
    | .ok markers, some number =>
        s.patches.set number (some ⟨markers, s.cacheNumber cache⟩)
    | _, _ => s.patches
  | .uninstall name =>
    match s.engineNames.lookup name with
    | some number => s.patches.set number none
    | none => s.patches
  | _ => s.patches

/-- A name stands for no number, for the number of no engine, or for the
number of an engine. -/
theorem engine?_cases (s : Session Program) (name : String) :
    (s.engineNames.lookup name = none ∧ s.engine? name = none) ∨
      (∃ number, s.engineNames.lookup name = some number ∧ s.engine? name = none ∧
        s.patches.length ≤ number) ∨
      ∃ number state, s.engineNames.lookup name = some number ∧
        s.engine? name = some (number, state) ∧ s.engines[number]? = some state := by
  cases hName : s.engineNames.lookup name with
  | none =>
      refine .inl ⟨rfl, ?_⟩
      unfold engine?
      rw [hName]
      rfl
  | some number =>
      cases hState : s.engines[number]? with
      | none =>
          refine .inr (.inl ⟨number, rfl, ?_, ?_⟩)
          · simp [engine?, hName, hState]
          · rw [patches, List.length_map]
            exact List.getElem?_eq_none_iff.mp hState
      | some state =>
          exact .inr
            (.inr ⟨number, state, rfl, engine?_eq_some.mpr ⟨hName, hState⟩,
              hState⟩)

/-- Installing sets the patch of one engine, whatever it was. -/
theorem patches_install (s : Session Program) (name : String) (delimiters : Value)
    (cache : Option String) :
    (s.enginesBy (.install name delimiters cache)).map patch? =
      s.patchesBy (.install name delimiters cache) := by
  simp only [enginesBy, patchesBy]
  cases MarkerSet.ofValue delimiters with
  | error fault => rfl
  | ok markers =>
      rcases s.engine?_cases name with
        ⟨hName, hNone⟩ | ⟨number, hName, hNone, hLength⟩ |
        ⟨number, state, hName, hEngine, hState⟩
      · rw [hName, hNone]
        rfl
      · rw [hName, hNone]
        exact (List.set_eq_of_length_le hLength).symm
      · rw [hName, hEngine]
        exact List.map_set

theorem patches_uninstall {s : Session Program} (hRegular : s.Regular) (name : String) :
    (s.enginesBy (.uninstall name)).map patch? = s.patchesBy (.uninstall name) := by
  simp only [enginesBy, patchesBy]
  rcases s.engine?_cases name with
    ⟨hName, hNone⟩ | ⟨number, hName, hNone, hLength⟩ |
    ⟨number, state, hName, hEngine, hState⟩
  · rw [hName, hNone]
    rfl
  · rw [hName, hNone]
    exact (List.set_eq_of_length_le hLength).symm
  · have hKnown : state = ofPatch state.engine state.patch? :=
      hRegular state (List.mem_of_getElem? hState)
    have hPatch : s.patches[number]? = some state.patch? := by
      rw [patches, List.getElem?_map, hState]
      rfl
    rw [hName, hEngine]
    cases hHad : state.patch? with
    | none =>
        rw [hHad] at hKnown hPatch
        obtain ⟨hLess, hNone⟩ := List.getElem?_eq_some_iff.mp hPatch
        rw [hKnown]
        show s.patches = s.patches.set number none
        rw [← hNone, List.set_getElem_self]
    | some p =>
        rw [hHad] at hKnown
        rw [hKnown]
        exact List.map_set

theorem patches_perform {s : Session Program} (hRegular : s.Regular)
    (step : Step Program) :
    (s.perform step).2.patches = s.patchesBy step := by
  unfold patches
  rw [engines_perform]
  cases step with
  | makeEngine name e => exact List.map_append
  | install name delimiters cache => exact s.patches_install name delimiters cache
  | uninstall name => exact patches_uninstall hRegular name
  | _ => rfl

/-! ## Engines that were never patched -/

/-- The session in which an engine was never patched. -/
def unpatched (s : Session Program) (number : Nat) : Session Program :=
  s.withEngines (s.engines.modify number fun state => .unpatched state.engine)

theorem getElem?_unpatched (s : Session Program) (number i : Nat) :
    (s.unpatched number).engines[i]? =
      (s.engines[i]?).map fun state =>
        if number = i then .unpatched state.engine else state :=
  List.getElem?_modify ..

/-- The calls that are reported do not depend on patches. -/
theorem report_unpatched (s : Session Program) (number : Nat)
    (answer : Except Failure Answer) :
    (s.unpatched number).report answer = s.report answer := by
  have hCalls : (s.unpatched number).callsOf = s.callsOf := by
    funext entry
    have hJournal : (s.unpatched number).journal = s.journal := rfl
    unfold callsOf
    rw [getElem?_unpatched, hJournal]
    cases s.engines[entry.2]? with
    | none => rfl
    | some state =>
        by_cases hSame : number = entry.2 <;> simp [hSame, EngineState.unpatched]
  unfold report
  rw [hCalls]
  rfl

/-- Renderings, each of them under a name. -/
def renderSteps (requests : List (String × RenderRequest)) : List (Step Program) :=
  requests.map fun r => .render r.1 r.2

/-- Whatever is rendered, patches make no difference. -/
theorem run_renderSteps_unpatched (requests : List (String × RenderRequest))
    (s : Session Program) (number : Nat) :
    run (renderSteps requests) (s.unpatched number) = run (renderSteps requests) s := by
  induction requests generalizing s with
  | nil => rfl
  | cons r requests ih =>
      have hEngines := engines_perform s.quiet (.render r.1 r.2)
      have hPerform := perform_render_withEngines s.quiet
        (s.quiet.engines.modify number fun state => .unpatched state.engine) r.1 r.2
      have hQuiet : (s.unpatched number).quiet = s.quiet.withEngines
        (s.quiet.engines.modify number fun state => .unpatched state.engine) := rfl
      have hAfter : (s.quiet.perform (.render r.1 r.2)).2.withEngines
          (s.quiet.engines.modify number fun state => .unpatched state.engine) =
            (s.quiet.perform (.render r.1 r.2)).2.unpatched number := by
        rw [unpatched, hEngines]
        rfl
      have hAdvance : (s.unpatched number).advance (.render r.1 r.2) =
          ((s.advance (.render r.1 r.2)).1,
            (s.advance (.render r.1 r.2)).2.unpatched number) := by
        simp only [advance, hQuiet, hPerform, hAfter, report_unpatched]
      show ((s.unpatched number).advance (.render r.1 r.2)).1 :: run _ _ = _
      rw [hAdvance]
      exact congrArg _ (ih _)

/-! ## Engines as machines -/

/-- What can be seen of an engine that stands under a name and a number, and
of which nothing is known but the patch it has, if it has one. -/
structure ActsAs (s : Session Program) (name : String) (number : Nat)
    (e : Engine Program) (patch : Option Patch) : Prop where
  /-- Delimiters that are at fault change nothing and log nothing. -/
  install_error : ∀ delimiters cache fault, MarkerSet.ofValue delimiters =
    .error fault →
    s.perform (.install name delimiters cache) = (.error fault, s)
  /-- Other delimiters give it their patch, whatever it had. -/
  install_ok : ∀ delimiters cache markers,
    MarkerSet.ofValue delimiters = .ok markers →
    s.perform (.install name delimiters cache) =
      (.ok .nothing, (s.setEngine number (.ofPatch e
        (some ⟨markers, s.cacheNumber cache⟩))).log (installedEvent markers))
  /-- A patch is removed, and it is told whether there was one. -/
  uninstall : s.perform (.uninstall name) =
    (.ok (.flag patch.isSome),
      if patch.isSome then (s.setEngine number (.ofPatch e none)).log uninstalledEvent
      else s)
  /-- Without a patch, everything is left to the engine. -/
  compile_none : patch = none → ∀ source path target,
    s.perform (.compile name source path target) =
      keep target (s.compileNative ⟨some number, e⟩ path source)
  /-- With a patch, what is no text is left to the engine. -/
  compile_other : ∀ source path target, (∀ text, source ≠ .text text) →
    s.perform (.compile name source path target) =
      keep target (s.compileNative ⟨some number, e⟩ path source)
  /-- With a patch, a text is compiled as with the markers of the patch on an
  engine that was never patched: with the same answer, events and calls, and
  everything that is rendered afterwards is the same. -/
  compile_text : ∀ p, patch = some p → ∀ text path target,
    ∃ answer after, s.perform (.compile name (.text text) path target) =
      (answer, after) ∧
      keep target ((s.unpatched number).compileTemplateWith (some number) (.unpatched e)
        p.markers p.cache .default path (.text text)) =
          (answer, after.unpatched number) ∧
      (∀ delimiters cache, MarkerSet.ofValue delimiters = .ok p.markers →
        s.cacheNumber cache = p.cache →
        (s.unpatched number).perform (.compileTemplate
          ⟨.text text, delimiters, .named name, cache, none, path⟩ target) =
            (answer, after.unpatched number)) ∧
      ∀ requests, run (renderSteps requests) (after.unpatched number) =
        run (renderSteps requests) after
  /-- If the markers are the engine's own, the engine gets the text as it is. -/
  compile_native : ∀ p, patch = some p → p.markers.isNative = true →
    ∀ text path target,
    s.perform (.compile name (.text text) path target) =
      keep target (s.compileNative ⟨some number, e⟩ path (.text text))

theorem setCache_cacheAt (s : Session Program) (number : Nat) :
    s.setCache number (s.cacheAt number) = s := by
  have hSet : s.caches.set number (s.caches.getD number .empty) = s.caches := by
    by_cases hLess : number < s.caches.length
    · rw [List.getD_eq_getElem?_getD, List.getElem?_eq_getElem hLess, Option.getD_some,
        List.set_getElem_self]
    · exact List.set_eq_of_length_le (Nat.le_of_not_lt hLess)
  unfold setCache cacheAt
  rw [hSet]

/-- The engine's own markers leave everything to the engine. -/
theorem compile_of_isNative {markers : MarkerSet} (hNative : markers.isNative = true)
    (s : Session Program) (e : NumberedEngine Program) (cache : Nat) (guard : Guard)
    (path : Option String) (source : Value) :
    s.compile e markers cache guard path source = s.compileNative e path source := by
  have hCompile :
      Retag.compile e markers guard path source (s.cacheAt cache) s.journal =
      (((Retag.compileNative e source path s.journal).1, s.cacheAt cache),
        (Retag.compileNative e source path s.journal).2) := if_pos hNative
  unfold Session.compile
  rw [hCompile]
  simp only [setCache_cacheAt]
  rfl

/-- An engine with a patch compiles texts with its markers, and leaves
everything else to its own method. -/
theorem compileWith_ofPatch (s : Session Program) (number : Nat) (e : Engine Program)
    (patch : Option Patch) (path : Option String) (source : Value) :
    s.compileWith number (.ofPatch e patch) path source =
      match patch, source with
      | some p, .text text =>
        s.compile ⟨some number, e⟩ p.markers p.cache .default path (.text text)
      | _, _ => s.compileNative ⟨some number, e⟩ path source := by
  cases patch with
  | none => rfl
  | some p => cases source <;> rfl

section ActsAs

variable {s : Session Program} {name : String} {number : Nat} {e : Engine Program}
  {patch : Option Patch}

theorem perform_compile_text {p : Patch}
    (hEngine : s.engine? name = some (number, .ofPatch e (some p))) (text : String)
    (path : Option String) (target : String) :
    s.perform (.compile name (.text text) path target) =
      keep target (s.compile ⟨some number, e⟩ p.markers p.cache .default path
        (.text text)) := by
  simp only [perform, hEngine]
  rfl

theorem engine?_unpatched (hEngine : s.engine? name = some (number, .ofPatch e patch)) :
    (s.unpatched number).engine? name = some (number, .unpatched e) := by
  obtain ⟨hName, hState⟩ := engine?_eq_some.mp hEngine
  refine engine?_eq_some.mpr ⟨hName, ?_⟩
  rw [getElem?_unpatched, hState, Option.map_some, if_pos rfl, engine_ofPatch]

theorem actsAs_of_engine? (hEngine : s.engine? name = some (number, .ofPatch e patch)) :
    s.ActsAs name number e patch where
  install_error delimiters cache fault hFault := by
    simp only [perform, install, hFault]
  install_ok delimiters cache markers hMarkers := by
    simp only [perform, install, hMarkers, hEngine, patchWith_ofPatch]
  uninstall := by
    simp only [perform, Session.uninstall, hEngine]
    cases patch with
    | none => rfl
    | some p => rfl
  compile_none hNone source path target := by
    subst hNone
    simp only [perform, hEngine]
    rfl
  compile_other source path target hOther := by
    simp only [perform, hEngine]
    cases patch with
    | none => rfl
    | some p =>
        cases source with
        | text text => exact absurd rfl (hOther text)
        | _ => rfl
  compile_text p hPatch text path target := by
    subst hPatch
    have hCompile := perform_compile_text hEngine text path target
    -- with the patch or without it, the same work runs beside the engines
    have hEngines := engines_perform s (.compile name (.text text) path target)
    have hKept := keep_withEngines target
      (s.compile ⟨some number, e⟩ p.markers p.cache .default path (.text text))
      (s.engines.modify number fun state => .unpatched state.engine)
    rw [← compile_withEngines, ← hCompile] at hKept
    rcases hPerform : s.perform (.compile name (.text text) path target) with
      ⟨answer, after⟩
    rw [hPerform] at hEngines hKept
    change after.engines = s.engines at hEngines
    have hPlain : keep target ((s.unpatched number).compileTemplateWith (some number)
        (.unpatched e) p.markers p.cache .default path (.text text)) =
          (answer, after.unpatched number) := by
      refine hKept.trans ?_
      rw [unpatched, hEngines]
    refine ⟨answer, after, rfl, hPlain, fun delimiters cache hMarkers hCache => ?_,
      fun requests => run_renderSteps_unpatched requests _ number⟩
    have hNumber : (s.unpatched number).cacheNumber cache = p.cache := hCache
    simp only [perform, compileTemplate, guardOf, hMarkers, chosen?,
      engine?_unpatched hEngine, hNumber]
    exact hPlain
  compile_native p hPatch hNative text path target := by
    subst hPatch
    rw [perform_compile_text hEngine, compile_of_isNative hNative]

end ActsAs

/-- Every engine of a session, after any steps whatever, is a machine that
knows nothing but the patch it has, if it has one.  Its compile method and
its saved method are those of an engine with that patch, and templates are
compiled with the engine's own method, so no patch ever hands a value on to
another one.  Steps do to the patches what `patchesBy` says and nothing else,
and what is seen of an engine is what `ActsAs` says of its patch. -/
theorem engines_are_machines (steps : List (Step Program)) :
    let s := (reached steps).quiet
    (∀ state ∈ s.engines, state.nativeMethod = .own ∧
        ∃ patch, state = .ofPatch state.engine patch) ∧
      (∀ step, (s.perform step).2.patches = s.patchesBy step) ∧
      ∀ name number state, s.engine? name = some (number, state) →
        ∃ patch, state = .ofPatch state.engine patch ∧
          s.ActsAs name number state.engine patch := by
  intro s
  have hRegular : s.Regular := regular_reached steps
  refine ⟨fun state hMem => ⟨?_, _, hRegular state hMem⟩,
    patches_perform hRegular, fun name number state hEngine => ?_⟩
  · rw [hRegular state hMem, nativeMethod_ofPatch]
  · have hState := hRegular state (List.mem_of_getElem? (engine?_eq_some.mp hEngine).2)
    refine ⟨_, hState, actsAs_of_engine? ?_⟩
    rw [hEngine]
    exact congrArg (fun other => some (number, other)) hState

end Session

end Retag

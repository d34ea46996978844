import Mathlib.Data.List.Forall2
import Retag.Proofs.Session.Alike
import Retag.Proofs.Session.Patching
import Retag.Proofs.Table

/-!
# Caches are transparent

What the caches of a session hold is known from what its steps asked of them.
A step asks one cache for a few texts, at most, and a cache holds what it was
asked for since it was made or cleared: the expressions among the texts, each
of them once.  A matcher that is added is logged, and nothing else is logged as such.

Apart from that caches do not show.  The same steps on two sessions that differ
in what their caches hold give the same reports, but for the events of the
caches and the answers of the two steps that ask a cache what it holds.

## Main results

* `transparent_perform`: every step but those that make or clear a cache.
* `kept_reached`: the invariant of the sessions that can be reached.
* `run_alike`: the same steps on two sessions.
* `caches_are_transparent`: the caches of a session that can be reached.
-/

namespace Retag

open Log

variable {Program : Type} {β : Type}

/-- An answer that does not tell what a cache holds. -/
def Step.hide : Step Program → Except Failure Answer → Except Failure Answer
  | .cacheSize _, answer => answer.map fun _ => .nothing
  | .cacheHas .., answer => answer.map fun _ => .nothing
  | _, answer => answer

/-- Whether a step makes or clears a cache. -/
def Step.renewsCache : Step Program → Bool
  | .makeCache _ => true
  | .cacheClear _ => true
  | _ => false

/-- A report that does not tell what the caches hold. -/
def Report.withoutCaches (step : Step Program) (r : Report) : Report :=
  ⟨step.hide r.answer, r.events.filter fun e => !e.isInsertion, r.calls⟩

namespace Session

open EngineState

/-! ## Requests -/

/-- What compiling a text with the patch of an engine asks of a cache. -/
def patchRequests (s : Session Program) (name : String) (path : Option String) :
    CacheRequests :=
  match (s.engine? name).bind fun found => found.2.patch? with
  | some patch => ⟨patch.cache, patch.markers.asks, path⟩
  | none => .none

/-- What compiling with a marker set asks of a cache. -/
def templateRequests (s : Session Program) (r : CompileRequest Program) :
    CacheRequests :=
  match guardOf r.guard, MarkerSet.ofValue r.delimiters, s.chosen? r.engine with
  | .ok _, .ok markers, some _ => ⟨s.cacheNumber r.cache, markers.asks, r.path⟩
  | _, _, _ => .none

/-- What a step asks of a cache. -/
def requests (s : Session Program) : Step Program → CacheRequests
  | .cacheGet name source => ⟨s.cacheNumber name, [source], none⟩
  | .cacheSame name first second =>
    ⟨s.cacheNumber (some name), first :: if isExpression first then [second] else [],
      none⟩
  | .rewrite source _ _ cache => ⟨s.cacheNumber cache, [source], none⟩
  | .compile name (.text _) path _ => s.patchRequests name path
  | .compileTemplate r _ => s.templateRequests r
  | _ => .none

/-- Engines are known by their patches, caches are sound, and there is a cache
for every number that stands for one. -/
structure Kept (s : Session Program) : Prop where
  regular : s.Regular
  sound : s.Sound
  default_lt : 0 < s.caches.length
  name_lt : ∀ entry ∈ s.cacheNames, entry.2 < s.caches.length
  patch_lt : ∀ patch, some patch ∈ s.patches → patch.cache < s.caches.length

theorem Kept.cacheNumber_lt {s : Session Program} (hKept : s.Kept)
    (name : Option String) :
    s.cacheNumber name < s.caches.length := by
  unfold cacheNumber
  split
  · exact hKept.default_lt
  · split
    · exact hKept.default_lt
    · rename_i name _
      cases hName : s.cacheNames.lookup name with
      | none => exact hKept.default_lt
      | some number =>
          exact hKept.name_lt (name, number) (mem_of_lookup hName)

theorem mem_patches {s : Session Program} {name : String} {number : Nat}
    {state : EngineState Program} (hEngine : s.engine? name = some (number, state)) :
    state.patch? ∈ s.patches :=
  List.mem_map_of_mem (mem_engines hEngine)

theorem Kept.number_lt {s : Session Program} (hKept : s.Kept) (step : Step Program) :
    (s.requests step).number < s.caches.length := by
  cases step with
  | cacheGet name source => exact hKept.cacheNumber_lt name
  | cacheSame name first second => exact hKept.cacheNumber_lt (some name)
  | rewrite source isEscaping text cache => exact hKept.cacheNumber_lt cache
  | compile name source path target =>
      cases source with
      | text text =>
          simp only [requests, patchRequests]
          split
          · rename_i patch hPatch
            obtain ⟨⟨number, state⟩, hEngine, hState⟩ :=
              Option.bind_eq_some_iff.mp hPatch
            have hMem := mem_patches hEngine
            rw [hState] at hMem
            exact hKept.patch_lt patch hMem
          · exact hKept.default_lt
      | _ => exact hKept.default_lt
  | compileTemplate r target =>
      simp only [requests, templateRequests]
      split
      · exact hKept.cacheNumber_lt r.cache
      · exact hKept.default_lt
  | _ => exact hKept.default_lt

/-! ## Steps that neither make nor clear a cache -/

/-- A step with its answer, unless that tells what a cache holds. -/
def shown (step : Step Program) (s : Session Program) :
    Except Failure Answer × Session Program :=
  (step.hide (s.perform step).1, (s.perform step).2)

theorem transparent_compileWith {s : Session Program} (hKept : s.Kept) {name : String}
    {number : Nat} {state : EngineState Program}
    (hEngine : s.engine? name = some (number, state))
    (source : Value) (path : Option String) (target : String) :
    Transparent (fun t : Session Program => t.compileWith number state path source)
      (s.requests (.compile name source path target)) := by
  have hState : state = ofPatch state.engine state.patch? :=
    hKept.regular state (mem_engines hEngine)
  have hPatch : (s.engine? name).bind (fun found => found.2.patch?) = state.patch? := by
    rw [hEngine, Option.bind_some]
  have hNative := transparent_compileNative ⟨some number, state.engine⟩ path source
  rw [hState]
  simp only [compileWith_ofPatch]
  cases source with
  | text text =>
      simp only [requests, patchRequests, hPatch]
      cases state.patch? with
      | none => exact hNative
      | some patch => exact transparent_compile ..
  | _ => cases state.patch? <;> exact hNative

/-- Templates are compiled with the own method of the engine that a step chooses. -/
theorem Kept.nativeMethod_eq {s : Session Program} (hKept : s.Kept)
    {choice : EngineChoice Program} {number : Option Nat} {state : EngineState Program}
    (hChosen : s.chosen? choice = some (number, state)) :
    state.nativeMethod = .own := by
  cases choice with
  | fresh engine =>
      obtain ⟨-, rfl⟩ := Prod.mk.inj (Option.some.inj hChosen)
      rfl
  | named name =>
      obtain ⟨found, hEngine, hFound⟩ := Option.map_eq_some_iff.mp hChosen
      obtain ⟨-, rfl⟩ := Prod.mk.inj hFound
      rw [hKept.regular found.2 (mem_engines hEngine),
        nativeMethod_ofPatch]

theorem transparentAt_compileTemplate {s : Session Program} (hKept : s.Kept)
    (r : CompileRequest Program) :
    s.TransparentAt (fun t => t.compileTemplate r) (s.templateRequests r) := by
  unfold templateRequests compileTemplate
  cases hGuard : guardOf r.guard with
  | error e => exact ⟨_, transparent_answer (.error e), fun _ _ => rfl⟩
  | ok guard =>
      cases hMarkers : MarkerSet.ofValue r.delimiters with
      | error e => exact ⟨_, transparent_answer (.error e), fun _ _ => rfl⟩
      | ok markers =>
          cases hChosen : s.chosen? r.engine with
          | none =>
              refine ⟨_, transparent_answer (.error (.engine .mustache)),
                fun t hAlike => ?_⟩
              simp only [hAlike.chosen?, hChosen]
          | some found =>
              obtain ⟨number, state⟩ := found
              refine ⟨_, transparent_compile ⟨number, state.engine⟩ markers
                (s.cacheNumber r.cache) guard r.path r.source, fun t hAlike => ?_⟩
              simp only [hAlike.chosen?, hChosen, hAlike.cacheNumber,
                compileTemplateWith, hKept.nativeMethod_eq hChosen]

theorem transparentAt_makeTemplate (s : Session Program) (r : TemplateRequest) :
    s.TransparentAt (fun t => t.makeTemplate r) .none := by
  unfold makeTemplate
  cases hGuard : guardOf r.guard with
  | error e => exact ⟨_, transparent_answer (.error e), fun _ _ => rfl⟩
  | ok guard =>
      cases hEngine : s.engine? r.engine with
      | none =>
          refine ⟨_, transparent_answer (.error (.engine .mustache)),
            fun t hAlike => ?_⟩
          simp only [hAlike.engine?, hEngine]
      | some found =>
          obtain ⟨number, state⟩ := found
          refine ⟨_, (transparent_journal (Template.steady_create r.isLazy
            ⟨r.segments, guard, r.name, none, ⟨some number, state.engine⟩, none⟩)).map
              fun answer => answer.map .template, fun t hAlike => ?_⟩
          simp only [hAlike.engine?, hEngine]

theorem transparentAt_install (s : Session Program) (name : String) (delimiters : Value)
    (cache : Option String) :
    s.TransparentAt (fun t => t.install name delimiters cache) .none := by
  unfold install
  cases MarkerSet.ofValue delimiters with
  | error e => exact ⟨_, transparent_answer (.error e), fun _ _ => rfl⟩
  | ok markers =>
      cases hEngine : s.engine? name with
      | none =>
          refine ⟨_, transparent_answer (.ok .nothing), fun t hAlike => ?_⟩
          simp only [hAlike.engine?, hEngine]
      | some found =>
          obtain ⟨number, state⟩ := found
          refine ⟨_, (transparent_setEngine number (state.patchWith ⟨markers,
            s.cacheNumber cache⟩) ()).bind fun _ =>
              transparent_log (installedEvent markers) rfl (.ok .nothing),
                fun t hAlike => ?_⟩
          simp only [hAlike.engine?, hEngine, hAlike.cacheNumber]

theorem transparentAt_uninstall (s : Session Program) (name : String) :
    s.TransparentAt (fun t => t.uninstall name) .none := by
  unfold uninstall
  rcases hEngine : s.engine? name with _ | ⟨number, engine, method, _ | native⟩
  · refine ⟨_, transparent_answer (.ok (.flag false)), fun t hAlike => ?_⟩
    simp only [hAlike.engine?, hEngine]
  · refine ⟨_, transparent_answer (.ok (.flag false)), fun t hAlike => ?_⟩
    simp only [hAlike.engine?, hEngine]
  · refine ⟨_, (transparent_setEngine number ⟨engine, native, none⟩ ()).bind
      fun _ =>
      transparent_log uninstalledEvent rfl (.ok (.flag true)), fun t hAlike => ?_⟩
    simp only [hAlike.engine?, hEngine]

theorem transparentAt_compile {s : Session Program} (hKept : s.Kept) (name : String)
    (source : Value) (path : Option String) (target : String) :
    s.TransparentAt (fun t => t.perform (.compile name source path target))
      (s.requests (.compile name source path target)) := by
  cases hEngine : s.engine? name with
  | none =>
      have hRequests : s.requests (.compile name source path target) = .none := by
        cases source with
        | text text => simp only [requests, patchRequests, hEngine, Option.bind_none]
        | _ => rfl
      rw [hRequests]
      refine ⟨_, transparent_answer (.ok .nothing), fun t hAlike => ?_⟩
      simp only [perform, hAlike.engine?, hEngine]
  | some found =>
      refine ⟨_, transparent_keep target
        (transparent_compileWith hKept hEngine source path target), fun t hAlike => ?_⟩
      simp only [perform, hAlike.engine?, hEngine]

/-- A step that neither makes nor clears a cache shows of the caches no more
than what they hold. -/
theorem transparent_perform {s : Session Program} (hKept : s.Kept) {step : Step Program}
    (hStep : step.renewsCache = false) :
    s.TransparentAt (shown step) (s.requests step) := by
  cases step with
  | makeEngine name e =>
      exact ⟨_, transparent_addEngine name e (.ok .nothing), fun _ _ => rfl⟩
  | makeCache name => cases hStep
  | cacheGet name source =>
      refine ⟨_, (transparent_matcher (s.cacheNumber name) source).map fun answer =>
        answer.map fun matcher => .text matcher.source, fun t hAlike => ?_⟩
      simp only [shown, perform, Step.hide, hAlike.cacheNumber]
  | cacheSize name => exact ⟨_, transparent_answer (.ok .nothing), fun _ _ => rfl⟩
  | cacheHas name source =>
      refine ⟨_, transparent_answer
        (((s.cacheHas 0 source).map Answer.flag).map fun _ => .nothing), fun t _ => ?_⟩
      cases source <;> rfl
  | cacheClear name => cases hStep
  | cacheSame name first second =>
      refine ⟨fun t => ((sameMatcher first second).map .flag, t.ask (s.requests
        (.cacheSame name first second))), transparent_of_steady
          (steady_answer ((sameMatcher first second).map .flag)) fun _ _ => rfl,
        fun t hAlike => ?_⟩
      have hRange : s.cacheNumber (some name) < t.caches.length := by
        rw [hAlike.length_eq]
        exact hKept.cacheNumber_lt (some name)
      simp only [shown, perform, Step.hide, hAlike.cacheNumber,
        cacheSame_eq hAlike.sound_right hRange]
      rfl
  | rewrite source isEscaping text cache =>
      refine ⟨_, (transparent_matcher (s.cacheNumber cache) source).map fun answer =>
        answer.bind fun matcher => (Retag.rewrite matcher isEscaping text).map .text,
        fun t hAlike => ?_⟩
      simp only [shown, perform, rewrite, hAlike.cacheNumber]
      rcases t.matcher (s.cacheNumber cache) source with ⟨answer, after⟩
      cases answer <;> rfl
  | install name delimiters cache => exact s.transparentAt_install name delimiters cache
  | uninstall name => exact s.transparentAt_uninstall name
  | isPatched name =>
      refine ⟨_, transparent_answer (.ok (.flag (s.isPatched name))),
        fun t hAlike => ?_⟩
      simp only [shown, perform, Step.hide, isPatched, hAlike.engine?]
  | compile name source path target =>
      exact transparentAt_compile hKept name source path target
  | compileTemplate r target =>
      obtain ⟨op, hOp, hSame⟩ := transparentAt_compileTemplate hKept r
      exact ⟨_, transparent_keep target hOp, fun t hAlike =>
        congrArg (keep target) (hSame t hAlike)⟩
  | makeTemplate r target =>
      obtain ⟨op, hOp, hSame⟩ := s.transparentAt_makeTemplate r
      exact ⟨_, transparent_keep target hOp, fun t hAlike =>
        congrArg (keep target) (hSame t hAlike)⟩
  | inspect target =>
      cases hFound : s.templates.lookup target with
      | none =>
          refine ⟨_, transparent_answer (.ok noTemplate), fun t hAlike => ?_⟩
          simp only [shown, perform, Step.hide, hAlike.templates_eq, hFound]
      | some compiled =>
          refine ⟨_, transparent_answer (.ok (.description compiled.description)),
            fun t hAlike => ?_⟩
          simp only [shown, perform, Step.hide, hAlike.templates_eq, hFound]
  | render target r =>
      cases hFound : s.templates.lookup target with
      | none =>
          refine ⟨_, transparent_answer (.ok noTemplate), fun t hAlike => ?_⟩
          simp only [shown, perform, Step.hide, hAlike.templates_eq, hFound]
      | some compiled =>
          refine ⟨_, (transparent_render target compiled r).map
            fun answer => answer.map .text,
            fun t hAlike => ?_⟩
          simp only [shown, perform, Step.hide, hAlike.templates_eq, hFound]

/-! ## What a step does to the caches -/

/-- What a step does to the caches. -/
def cachesBy (s : Session Program) : Step Program → List MatcherCache
  | .makeCache _ => s.caches ++ [.empty]
  | .cacheClear name => s.caches.set (s.cacheNumber (some name)) .empty
  | step => s.cachesAfter (s.requests step)

/-- What a step does to the names of caches. -/
def cacheNamesBy (s : Session Program) : Step Program → List (String × Nat)
  | .makeCache name => putEntry name s.caches.length s.cacheNames
  | _ => s.cacheNames

/-- What the caches log in a step. -/
def insertionsBy (s : Session Program) (step : Step Program) : List Event :=
  (s.eventsOf (s.requests step)).map
    (Event.inScope ((s.requests step).path.or s.journal.scope))

theorem cachesBy_of_renewsCache {step : Step Program} (hStep : step.renewsCache = false)
    (s : Session Program) :
    s.cachesBy step = s.cachesAfter (s.requests step) ∧
    s.cacheNamesBy step = s.cacheNames := by
  cases step with
  | makeCache name => cases hStep
  | cacheClear name => cases hStep
  | _ => exact ⟨rfl, rfl⟩

theorem caches_perform {s : Session Program} (hKept : s.Kept) (step : Step Program) :
    (s.perform step).2.caches = s.cachesBy step ∧
      (s.perform step).2.cacheNames = s.cacheNamesBy step ∧
      (s.perform step).2.journal.insertions =
        s.journal.insertions ++ s.insertionsBy step := by
  cases hStep : step.renewsCache with
  | false =>
      obtain ⟨hCaches, hNames⟩ := cachesBy_of_renewsCache hStep s
      obtain ⟨op, hOp, hSame⟩ := transparent_perform hKept hStep
      have hShown : shown step s = op s := hSame s (.refl hKept.sound)
      have hAfter : (s.perform step).2 = (op s).2 := by
        rw [← hShown]
        rfl
      rw [hAfter, hCaches, hNames]
      exact ⟨hOp.caches_eq hKept.sound, hOp.cacheNames_eq hKept.sound,
        hOp.insertions_eq hKept.sound⟩
  | true =>
      have hNothing : s.requests step = .none → s.insertionsBy step = [] := by
        intro hNone
        rw [insertionsBy, hNone, eventsOf_none, List.map_nil]
      cases step with
      | makeCache name =>
          exact ⟨rfl, rfl, by rw [hNothing rfl, List.append_nil]; rfl⟩
      | cacheClear name =>
          exact ⟨rfl, rfl, by rw [hNothing rfl, List.append_nil]; rfl⟩
      | _ => cases hStep

theorem length_le_cachesBy (s : Session Program) (step : Step Program) :
    s.caches.length ≤ (s.cachesBy step).length := by
  cases hStep : step.renewsCache with
  | false =>
      rw [(cachesBy_of_renewsCache hStep s).1]
      exact Nat.le_of_eq (List.length_modify ..).symm
  | true =>
      cases step with
      | makeCache name => simp [cachesBy]
      | cacheClear name => simp [cachesBy]
      | _ => cases hStep

/-- Patches read with a cache that there is. -/
theorem Kept.patch_lt_of_mem {s : Session Program} (hKept : s.Kept)
    {step : Step Program} {patch : Patch} (hMem : some patch ∈ s.patchesBy step) :
    patch.cache < s.caches.length := by
  cases step with
  | makeEngine name e =>
      rcases List.mem_append.mp hMem with hOld | hNew
      · exact hKept.patch_lt patch hOld
      · cases List.mem_singleton.mp hNew
  | install name delimiters cache =>
      simp only [patchesBy] at hMem
      split at hMem
      · rcases List.mem_or_eq_of_mem_set hMem with hOld | hNew
        · exact hKept.patch_lt patch hOld
        · rw [Option.some.inj hNew]
          exact hKept.cacheNumber_lt cache
      · exact hKept.patch_lt patch hMem
  | uninstall name =>
      simp only [patchesBy] at hMem
      split at hMem
      · rcases List.mem_or_eq_of_mem_set hMem with hOld | hNew
        · exact hKept.patch_lt patch hOld
        · cases hNew
      · exact hKept.patch_lt patch hMem
  | _ => exact hKept.patch_lt patch hMem

theorem sound_cachesBy {s : Session Program} (hSound : s.Sound) (step : Step Program) :
    ∀ c ∈ s.cachesBy step, c.Sound := by
  cases hStep : step.renewsCache with
  | false =>
      rw [(cachesBy_of_renewsCache hStep s).1]
      exact sound_cachesAfter hSound _
  | true =>
      intro c hMem
      cases step with
      | makeCache name =>
          rcases List.mem_append.mp hMem with hOld | hNew
          · exact hSound c hOld
          · rw [List.mem_singleton.mp hNew]
            exact MatcherCache.sound_empty
      | cacheClear name =>
          rcases List.mem_or_eq_of_mem_set hMem with hOld | rfl
          · exact hSound c hOld
          · exact MatcherCache.sound_empty
      | _ => cases hStep

theorem Kept.name_lt_of_mem {s : Session Program} (hKept : s.Kept) {step : Step Program}
    {entry : String × Nat} (hMem : entry ∈ s.cacheNamesBy step) :
    entry.2 < (s.cachesBy step).length := by
  cases step with
  | makeCache name =>
      have hLength : (s.cachesBy (.makeCache name)).length = s.caches.length + 1 :=
        List.length_append
      rw [hLength]
      rcases mem_putEntry hMem with hNew | hOld
      · rw [hNew]
        exact Nat.lt_succ_self _
      · exact Nat.lt_succ_of_lt (hKept.name_lt entry hOld)
  | _ => exact Nat.lt_of_lt_of_le (hKept.name_lt entry hMem) (s.length_le_cachesBy _)

theorem kept_perform {s : Session Program} (hKept : s.Kept) (step : Step Program) :
    (s.perform step).2.Kept := by
  obtain ⟨hCaches, hNames, -⟩ := caches_perform hKept step
  have hLength := s.length_le_cachesBy step
  refine ⟨regular_perform hKept.regular step, ?_, ?_, ?_, ?_⟩
  · unfold Sound
    rw [hCaches]
    exact sound_cachesBy hKept.sound step
  · rw [hCaches]
    exact Nat.lt_of_lt_of_le hKept.default_lt hLength
  · rw [hCaches, hNames]
    exact fun entry hMem => hKept.name_lt_of_mem hMem
  · rw [hCaches, patches_perform hKept.regular]
    exact fun patch hMem => Nat.lt_of_lt_of_le (hKept.patch_lt_of_mem hMem) hLength

theorem kept_empty : (empty : Session Program).Kept where
  regular state hMem := by cases hMem
  sound c hMem := by
    rw [List.mem_singleton.mp hMem]
    exact MatcherCache.sound_empty
  default_lt := Nat.one_pos
  name_lt entry hMem := by cases hMem
  patch_lt patch hMem := by cases hMem

/-- The journal is not part of the invariant. -/
theorem Kept.quiet {s : Session Program} (hKept : s.Kept) : s.quiet.Kept :=
  ⟨hKept.regular, hKept.sound, hKept.default_lt, hKept.name_lt, hKept.patch_lt⟩

/-! ## The requests of a session -/

/-- What was asked of the caches since they were made or cleared, after one
more step. -/
def requestsBy (s : Session Program) (asked : List (List Text)) :
    Step Program → List (List Text)
  | .makeCache _ => asked ++ [[]]
  | .cacheClear name => asked.set (s.cacheNumber (some name)) []
  | step => asked.modify (s.requests step).number (· ++ (s.requests step).texts)

/-- What was asked of the caches of a session since they were made or cleared,
one list of texts for each cache. -/
def requestsOf (steps : List (Step Program)) : List (List Text) :=
  (steps.foldl (fun (found : Session Program × List (List Text)) step =>
    ((found.1.advance step).2, found.1.requestsBy found.2 step)) (.empty, [[]])).2

theorem cachesAfter_map_asked {s : Session Program} {asked : List (List Text)}
    (hCaches : s.caches = asked.map MatcherCache.asked) (r : CacheRequests) :
    s.cachesAfter r = (asked.modify r.number (· ++ r.texts)).map
      MatcherCache.asked := by
  rw [cachesAfter, hCaches]
  refine List.ext_getElem? fun i => ?_
  rw [List.getElem?_modify, List.getElem?_map, List.getElem?_map, List.getElem?_modify]
  cases asked[i]? with
  | none => rfl
  | some before =>
      by_cases hHere : r.number = i
      · simp [hHere, MatcherCache.asked_append]
      · simp [hHere]

theorem cachesBy_map_asked {s : Session Program} {asked : List (List Text)}
    (hCaches : s.caches = asked.map MatcherCache.asked) (step : Step Program) :
    s.cachesBy step = (s.requestsBy asked step).map MatcherCache.asked := by
  cases step with
  | makeCache name =>
      rw [cachesBy, requestsBy, hCaches, List.map_append]
      rfl
  | cacheClear name =>
      rw [cachesBy, requestsBy, hCaches, List.map_set]
      rfl
  | _ => exact cachesAfter_map_asked hCaches _

/-- In a session that can be reached, what the caches hold is what the
requests to them make of empty ones. -/
theorem kept_reached (steps : List (Step Program)) :
    (reached steps : Session Program).Kept ∧
      (reached steps).caches = (requestsOf steps).map MatcherCache.asked := by
  have hKeeps : ∀ (s : Session Program) (asked : List (List Text)), s.Kept →
      s.caches = asked.map MatcherCache.asked →
      (steps.foldl (fun s step => (s.advance step).2) s).Kept ∧
        (steps.foldl (fun s step => (s.advance step).2) s).caches =
          (steps.foldl (fun (found : Session Program × List (List Text)) step =>
            ((found.1.advance step).2, found.1.requestsBy found.2 step))
              (s, asked)).2.map MatcherCache.asked := by
    induction steps with
    | nil => exact fun _ _ hKept hCaches => ⟨hKept, hCaches⟩
    | cons step steps ih =>
        intro s asked hKept hCaches
        refine ih _ _ (kept_perform hKept.quiet step) ?_
        rw [← cachesBy_map_asked hCaches step]
        exact (caches_perform hKept.quiet step).1
  exact hKeeps .empty [[]] kept_empty rfl

/-! ## What the caches log -/

section

variable {g : MatcherCache → MatcherCache → List Event} (hSame : ∀ c, g c c = [])
include hSame

theorem flatMap_zip_append (caches more : List MatcherCache) :
    ((caches.zip (caches ++ more)).flatMap fun pair => g pair.1 pair.2) = [] := by
  induction caches with
  | nil => rfl
  | cons c caches ih =>
      rw [List.cons_append, List.zip_cons_cons, List.flatMap_cons, hSame, ih]
      rfl

/-- Of two lists of caches that differ in one place only that one counts. -/
theorem flatMap_zip_modify (f : MatcherCache → MatcherCache)
    {caches : List MatcherCache} {number : Nat} (hRange : number < caches.length) :
    ((caches.zip (caches.modify number f)).flatMap fun pair => g pair.1 pair.2) =
      g caches[number] (f caches[number]) := by
  induction caches generalizing number with
  | nil => exact absurd hRange (Nat.not_lt_zero _)
  | cons c caches ih =>
      cases number with
      | zero =>
          have hRest := flatMap_zip_append hSame caches []
          rw [List.append_nil] at hRest
          rw [List.modify_zero_cons, List.zip_cons_cons, List.flatMap_cons, hRest,
            List.append_nil]
          rfl
      | succ number =>
          rw [List.modify_succ_cons, List.zip_cons_cons, List.flatMap_cons, hSame,
            ih (Nat.lt_of_succ_lt_succ hRange)]
          rfl

end

/-- The caches log in a step what they got in it. -/
theorem insertionsBy_eq {s : Session Program} (hKept : s.Kept) (step : Step Program) :
    s.insertionsBy step = ((s.caches.zip (s.cachesBy step)).flatMap fun pair =>
      pair.1.insertionEvents pair.2).map
        (Event.inScope ((s.requests step).path.or s.journal.scope)) := by
  refine congrArg (List.map _) ?_
  have hRange := hKept.number_lt step
  cases hStep : step.renewsCache with
  | false =>
      have hModify := flatMap_zip_modify MatcherCache.insertionEvents_self
        (·.ask (s.requests step).texts) hRange
      rw [(cachesBy_of_renewsCache hStep s).1, cachesAfter, hModify, eventsOf, cacheAt,
        List.getD_eq_getElem?_getD, List.getElem?_eq_getElem hRange, Option.getD_some]
  | true =>
      cases step with
      | makeCache name =>
          exact (s.eventsOf_none).trans
            (flatMap_zip_append MatcherCache.insertionEvents_self _ _).symm
      | cacheClear name =>
          have hModify :=
            flatMap_zip_modify MatcherCache.insertionEvents_self (fun _ => .empty)
            (hKept.cacheNumber_lt (some name))
          rw [cachesBy, List.set_eq_modify, hModify, MatcherCache.insertionEvents_empty]
          exact s.eventsOf_none
      | _ => cases hStep

/-! ## The same steps on two sessions -/

theorem alike_perform {s t : Session Program} (hKept : s.Kept) (hAlike : s.Alike t)
    (step : Step Program) :
    (shown step t).1 = (shown step s).1 ∧
    (s.perform step).2.Alike (t.perform step).2 := by
  cases hStep : step.renewsCache with
  | false =>
      obtain ⟨op, hOp, hSame⟩ := transparent_perform hKept hStep
      have hLeft := hSame s (.refl hKept.sound)
      have hRight := hSame t hAlike
      have hAfter := hOp.alike hAlike
      rw [← hLeft, ← hRight] at hAfter
      rw [hLeft, hRight]
      exact ⟨hOp.fst_eq hAlike, hAfter⟩
  | true =>
      have hLeft := sound_cachesBy hAlike.sound_left step
      have hRight := sound_cachesBy hAlike.sound_right step
      cases step with
      | makeCache name =>
          refine ⟨rfl, hAlike.journal, ?_, hLeft, hRight, ?_, hAlike.engines_eq,
            hAlike.engineNames_eq, hAlike.templates_eq⟩
          · show (t.caches ++ _).length = (s.caches ++ _).length
            rw [List.length_append, List.length_append, hAlike.length_eq]
          · show putEntry name t.caches.length t.cacheNames = _
            rw [hAlike.length_eq, hAlike.cacheNames_eq]
            rfl
      | cacheClear name =>
          refine ⟨rfl, hAlike.journal, ?_, hLeft, hRight, hAlike.cacheNames_eq,
            hAlike.engines_eq, hAlike.engineNames_eq, hAlike.templates_eq⟩
          show (t.caches.set _ _).length = (s.caches.set _ _).length
          rw [List.length_set, List.length_set, hAlike.length_eq]
      | _ => cases hStep

theorem Alike.quiet {s t : Session Program} (hAlike : s.Alike t) :
    s.quiet.Alike t.quiet :=
  { hAlike with journal := hAlike.journal.clear }

/-- Calls are reported alike, and so are events of other kinds. -/
theorem withoutCaches_report {s t : Session Program} (hAlike : s.Alike t)
    {step : Step Program} {answer other : Except Failure Answer}
    (hAnswer : step.hide other = step.hide answer) :
    (t.report other).withoutCaches step = (s.report answer).withoutCaches step := by
  have hCalls : t.callsOf = s.callsOf := by
    funext entry
    unfold callsOf
    rw [hAlike.engines_eq, hAlike.journal.calls_eq]
  have hEvents : t.journal.others = s.journal.others := hAlike.journal.others_eq
  unfold Report.withoutCaches report
  rw [hCalls, hAlike.engineNames_eq, hAnswer]
  exact congrArg (fun events => Report.mk _ events _) hEvents

theorem run_alike (later : List (Step Program)) {s t : Session Program} (hKept : s.Kept)
    (hAlike : s.Alike t) :
    List.zipWith Report.withoutCaches later (run later t) =
      List.zipWith Report.withoutCaches later (run later s) := by
  induction later generalizing s t with
  | nil => rfl
  | cons step later ih =>
      obtain ⟨hAnswer, hAfter⟩ := alike_perform hKept.quiet hAlike.quiet step
      have hReport := withoutCaches_report hAfter hAnswer
      have hLater := ih (kept_perform hKept.quiet step) hAfter
      exact congrArg₂ List.cons hReport hLater

/-! ## Sessions that can be reached -/

/-- The session with other matchers in its caches: those that some texts leave
in an empty cache. -/
def recached (s : Session Program) (contents : Nat → List Text) : Session Program :=
  { s with
    caches := s.caches.mapIdx fun number _ => MatcherCache.asked (contents number) }

theorem sound_recached (s : Session Program) (contents : Nat → List Text) :
    (s.recached contents).Sound := by
  intro c hMem
  obtain ⟨number, -, rfl⟩ := List.mem_mapIdx.mp hMem
  exact MatcherCache.sound_asked (contents number)

theorem length_recached (s : Session Program) (contents : Nat → List Text) :
    (s.recached contents).caches.length = s.caches.length :=
  List.length_mapIdx

theorem alike_recached (s : Session Program) (contents contents' : Nat → List Text) :
    (s.recached contents).Alike (s.recached contents') :=
  ⟨.refl _, by rw [length_recached, length_recached], s.sound_recached contents,
    s.sound_recached contents', rfl, rfl, rfl, rfl⟩

theorem Kept.recached {s : Session Program} (hKept : s.Kept)
    (contents : Nat → List Text) :
    (s.recached contents).Kept := by
  have hLength := s.length_recached contents
  refine ⟨hKept.regular, s.sound_recached contents, ?_, ?_, ?_⟩ <;> rw [hLength]
  · exact hKept.default_lt
  · exact hKept.name_lt
  · exact hKept.patch_lt

/-- The caches of every session that can be reached, whatever its steps did
and however they failed.

Each holds what was asked of it since it was made or cleared: the expressions
among the texts, each of them once, with the matchers compiled from them; what
is no expression is not kept and fails whenever it is asked for.  In every
step that follows, the caches log the matchers that they get, each with the
number of matchers from then on, and nothing else is logged as such.  And
whatever the caches held instead, all steps that follow are reported in the
same way, but for the events of the caches and for the answers to what they hold. -/
theorem caches_are_transparent (steps : List (Step Program)) :
    let s : Session Program := reached steps
    List.Forall₂ MatcherCache.Holds s.caches (requestsOf steps) ∧
      (∀ step, (s.advance step).1.events.filter Event.isInsertion =
        ((s.caches.zip (s.advance step).2.caches).flatMap fun pair =>
          pair.1.insertionEvents pair.2).map
            (Event.inScope ((s.requests step).path.or s.journal.scope))) ∧
      ∀ (contents contents' : Nat → List Text) (later : List (Step Program)),
        List.zipWith Report.withoutCaches later (run later (s.recached contents)) =
          List.zipWith Report.withoutCaches later
            (run later (s.recached contents')) := by
  intro s
  obtain ⟨hKept, hCaches⟩ := kept_reached steps
  refine ⟨?_, fun step => ?_, fun contents contents' later => ?_⟩
  · rw [hCaches, List.forall₂_map_left_iff, List.forall₂_same]
    exact fun requests _ => MatcherCache.holds_asked requests
  · obtain ⟨hAfter, -, hInsertions⟩ := caches_perform hKept.quiet step
    have hLogged := insertionsBy_eq hKept.quiet step
    rw [← hAfter] at hLogged
    exact hInsertions.trans hLogged
  · exact run_alike later (hKept.recached contents')
      (s.alike_recached contents' contents)

end Session

end Retag

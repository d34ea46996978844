import Retag.Proofs.Session.Settled
import Retag.Proofs.Template.Compilations

/-!
# The compilations of a session

Every step of a session accounts for what engines compile in it.  An engine
that gets a source as it is gets one call and no event.  Everything else that
is compiled is a template, and `Session.compiledBy` says which: the one that
the step makes of a source or of segments, unless it is lazy, and those that
stand under a name and have no program when a rendering comes to them.  Each of
these compilations is one call and one event, both determined by the template.

Other events of the step carry the path of the source that the step compiles,
if it compiles one.  No step leaves a name in scope, be it answered or not.

A template stands under a name because some step made it, so its name is the
path that this step compiled a source with, or the name that was asked for.

## Main results

* `compiles_render`: what a rendering compiles.
* `accounted_perform`: what a step compiles.
* `native_compiles_are_accounted`: the steps of sessions that can be reached.
-/

namespace Retag

open Log

variable {Program : Type}

namespace Step

/-- The path of the source that a step compiles. -/
def path? : Step Program → Option String
  | .compile _ _ path _ => path
  | .compileTemplate r _ => r.path
  | _ => none

/-- Whether a template that a step makes has a name and a path. -/
def Names (name path : Option String) : Step Program → Prop
  | .compile _ _ given _ => name = given ∧ path = given
  | .compileTemplate r _ => name = r.path ∧ path = r.path
  | .makeTemplate r _ => name = r.name ∧ path = none
  | _ => False

end Step

namespace Session

open EngineState

/-- The calls that a step has engines compile as they are. -/
def nativeCalls (s : Session Program) : Step Program → List CompileCall
  | .compile name source path _ =>
    match s.engine? name with
    | none => []
    | some (number, state) =>
      match state.patch?, source with
      | some patch, .text _ =>
        if patch.markers.isNative then [⟨some number, source, path⟩] else []
      | _, _ => [⟨some number, source, path⟩]
  | .compileTemplate r _ =>
    match guardOf r.guard, MarkerSet.ofValue r.delimiters, s.chosen? r.engine with
    | .ok _, .ok markers, some (number, _) =>
      if markers.isNative then [⟨number, r.source, r.path⟩] else []
    | _, _, _ => []
  | _ => []

/-! ## Templates without a program -/

/-- A template that stands under a name and has no program. -/
def Waiting (s : Session Program) (t : Template Program) : Prop :=
  t.program = none ∧ ∃ name, s.templates.lookup name = some (.template t)

/-- The template under a name, if it has no program. -/
def waiting? (s : Session Program) (name : String) : Option (Template Program) :=
  match s.templates.lookup name with
  | some (.template t) => if t.isCompiled then none else some t
  | _ => none

/-- The templates without a program that are come to when names are gone
through and what stands under them is compiled. -/
def compiledAmong : List String → Session Program → List (Template Program)
  | [], _ => []
  | name :: rest, s =>
      (s.waiting? name).toList ++ compiledAmong rest (s.ensureCompiled name)

/-- Some templates that were waiting were compiled, and none was added. -/
structure Compiles (s : Session Program) (compiled : List (Template Program))
    (after : Session Program) : Prop where
  accounts :
    s.journal.Accounts none [] (compiled.flatMap Template.compilations) after.journal
  waited : ∀ t ∈ compiled, s.Waiting t
  waiting : ∀ t, after.Waiting t → s.Waiting t

theorem Compiles.refl (s : Session Program) : s.Compiles [] s :=
  ⟨.refl none _, by simp, fun _ hWaiting => hWaiting⟩

theorem Compiles.trans {s t u : Session Program}
    {first second : List (Template Program)} (hFirst : s.Compiles first t)
    (hSecond : t.Compiles second u) :
    s.Compiles (first ++ second) u := by
  refine ⟨?_, fun v hMem => ?_, fun v hWaiting => ?_⟩
  · rw [List.flatMap_append]
    exact hFirst.accounts.trans hSecond.accounts
  · rcases List.mem_append.mp hMem with hMem | hMem
    · exact hFirst.waited v hMem
    · exact hFirst.waiting v (hSecond.waited v hMem)
  · exact hFirst.waiting v (hSecond.waiting v hWaiting)

theorem Compiles.scope_eq {s after : Session Program}
    {compiled : List (Template Program)}
    (hCompiles : s.Compiles compiled after) : after.journal.scope = s.journal.scope :=
  hCompiles.accounts.scope_eq

/-- Nothing new waits when something with a program is put under a name. -/
theorem waiting_bind {s : Session Program} {name : String} {compiled : Compiled Program}
    (hCompiled : ∀ t, compiled = .template t → t.program = none →
      s.templates.lookup name = some (.template t)) :
    ∀ t, (s.bind name compiled).Waiting t → s.Waiting t := by
  rintro t ⟨hProgram, other, hLookup⟩
  rw [bind, lookup_putEntry] at hLookup
  split at hLookup
  · exact ⟨hProgram, name, hCompiled t (Option.some.inj hLookup) hProgram⟩
  · exact ⟨hProgram, other, hLookup⟩

theorem Compiles.bind {s after : Session Program} {templates : List (Template Program)}
    (hCompiles : s.Compiles templates after) {name : String}
    {compiled : Compiled Program}
    (hCompiled : ∀ t, compiled = .template t → t.program = none →
      after.templates.lookup name = some (.template t)) :
    s.Compiles templates (after.bind name compiled) :=
  ⟨hCompiles.accounts, hCompiles.waited, fun t hWaiting =>
    hCompiles.waiting t (waiting_bind hCompiled t hWaiting)⟩

/-- Asking a template under a name for its program compiles it, if it was waiting. -/
theorem compiles_programOr {s : Session Program} (hScope : s.journal.scope = none)
    {name : String} {t : Template Program}
    (hBound : s.templates.lookup name = some (.template t)) :
    s.Compiles (s.waiting? name).toList
      { s with journal := (t.programOr s.journal).2 } := by
  have hName : t.name.or s.journal.scope = t.name := by
    rw [hScope, Option.or_none]
  have hAccounts := @Template.accounts_programOr _ none t s.journal hName
  unfold waiting?
  rw [hBound]
  cases hProgram : t.program with
  | some program =>
      have hCompiled : t.isCompiled = true := congrArg Option.isSome hProgram
      rw [hCompiled] at hAccounts
      simp only [hCompiled, if_true, Option.toList_none]
      exact ⟨hAccounts, by simp, fun u hWaiting => hWaiting⟩
  | none =>
      have hDraft : t.isCompiled = false := congrArg Option.isSome hProgram
      rw [hDraft] at hAccounts
      simp only [hDraft, Bool.false_eq_true, if_false, Option.toList_some]
      refine ⟨?_, fun u hMem => ?_, fun u hWaiting => hWaiting⟩
      · rw [List.flatMap_singleton]
        exact hAccounts
      · rw [List.mem_singleton.mp hMem]
        exact ⟨hProgram, name, hBound⟩

theorem compiles_ensureCompiled {s : Session Program} (hScope : s.journal.scope = none)
    (name : String) : s.Compiles (s.waiting? name).toList (s.ensureCompiled name) := by
  unfold ensureCompiled
  split
  · rename_i t hBound
    have hAsked := compiles_programOr hScope hBound
    split
    · rename_i program j hBuild
      rw [hBuild] at hAsked
      refine hAsked.bind fun u hSame hNone => ?_
      cases hSame
      cases hNone
    · rename_i fault j hBuild
      rw [hBuild] at hAsked
      exact hAsked
  · rename_i hOther
    have hNone : s.waiting? name = none := by
      unfold waiting?
      split
      · rename_i t hBound
        exact absurd hBound (hOther t)
      · rfl
    rw [hNone]
    exact .refl s

theorem compiles_among {s : Session Program} (hScope : s.journal.scope = none)
    (names : List String) :
    s.Compiles (compiledAmong names s) (names.foldl ensureCompiled s) := by
  induction names generalizing s with
  | nil => exact .refl s
  | cons name names ih =>
      have hFirst := compiles_ensureCompiled hScope name
      exact hFirst.trans (ih (hFirst.scope_eq.trans hScope))

/-! ## Renderings -/

/-- The session in which a rendering compiles what it inserted, and the names
that it inserted. -/
def inserting (s : Session Program) (name : String) (compiled : Compiled Program)
    (r : RenderRequest) : Session Program × List String :=
  match compiled with
  | .native engine program =>
    let found := engine.render program (s.callOf r)
    (s.bind name (.native engine found.program), found.inserted)
  | .template t =>
    let found := t.render (s.callOf r) s.journal
    ({ s with journal := found.journal }.bind name (.template found.template),
      found.inserted)

/-- The templates that a rendering compiles: the one that is rendered, and then
those that it inserted. -/
def compiledByRendering (s : Session Program) (name : String)
    (compiled : Compiled Program) (r : RenderRequest) : List (Template Program) :=
  let (after, inserted) := s.inserting name compiled r
  (s.waiting? name).toList ++
    compiledAmong (inserted.filterMap fun name => (r.partials.getD []).lookup name)
    after

theorem render_eq_inserting (s : Session Program) (name : String)
    (compiled : Compiled Program) (r : RenderRequest) :
    (s.render name compiled r).2 =
      (s.inserting name compiled r).1.ensureInserted (r.partials.getD [])
        (s.inserting name compiled r).2 := by
  cases compiled <;> rfl

theorem compiles_inserting {s : Session Program} (hScope : s.journal.scope = none)
    {name : String} {compiled : Compiled Program}
    (hBound : s.templates.lookup name = some compiled) (r : RenderRequest) :
    s.Compiles (s.waiting? name).toList (s.inserting name compiled r).1 := by
  cases compiled with
  | native engine program =>
      have hNone : s.waiting? name = none := by
        unfold waiting?
        rw [hBound]
      rw [hNone]
      exact (Compiles.refl s).bind fun t hSame => by cases hSame
  | template t =>
      simp only [inserting, Template.render_eq]
      refine (compiles_programOr hScope hBound).bind fun u hSame hNone => ?_
      unfold Template.rendered at hSame
      split at hSame
      · exact hBound.trans (congrArg some hSame)
      · cases hSame
        cases hNone

/-- A rendering compiles the template that is rendered, unless it has a program,
and then those among the templates it inserted that have none. -/
theorem compiles_render {s : Session Program} (hScope : s.journal.scope = none)
    {name : String} {compiled : Compiled Program}
    (hBound : s.templates.lookup name = some compiled) (r : RenderRequest) :
    s.Compiles (s.compiledByRendering name compiled r)
      (s.render name compiled r).2 := by
  have hFirst := compiles_inserting hScope hBound r
  rw [render_eq_inserting]
  exact hFirst.trans (compiles_among (hFirst.scope_eq.trans hScope) _)

/-! ## Steps -/

/-- The templates that a step compiles. -/
def compiledBy (s : Session Program) : Step Program → List (Template Program)
  | .compile name source path _ =>
    match s.engine? name with
    | none => []
    | some (number, state) =>
      match state.patch?, source with
      | some patch, .text _ =>
        compiledFrom ⟨some number, state.engine⟩ patch.markers .default path source
      | _, _ => []
  | .compileTemplate r _ =>
    match guardOf r.guard, MarkerSet.ofValue r.delimiters, s.chosen? r.engine with
    | .ok guard, .ok markers, some (number, state) =>
      compiledFrom ⟨number, state.engine⟩ markers guard r.path r.source
    | _, _, _ => []
  | .makeTemplate r _ =>
    match guardOf r.guard, s.engine? r.engine with
    | .ok guard, some (number, state) =>
      if r.isLazy then []
      else [⟨r.segments, guard, r.name, none, ⟨some number, state.engine⟩,
        none⟩]
    | _, _ => []
  | .render target r =>
    match s.templates.lookup target with
    | none => []
    | some compiled => s.compiledByRendering target compiled r
  | _ => []

/-- What a step compiles had no program.  It is a template that the step makes,
or one that waited. -/
theorem draft_of_mem_compiledBy {s : Session Program} (hScope : s.journal.scope = none)
    {step : Step Program} {t : Template Program} (hMem : t ∈ s.compiledBy step) :
    t.program = none ∧ step.Names t.name t.path ∨ s.Waiting t := by
  cases step with
  | compile name source path target =>
      left
      simp only [compiledBy] at hMem
      split at hMem
      · cases hMem
      · split at hMem
        · exact draft_of_mem_compiledFrom _ _ _ _ hMem
        · cases hMem
  | compileTemplate r target =>
      left
      simp only [compiledBy] at hMem
      split at hMem
      · exact draft_of_mem_compiledFrom _ _ _ _ hMem
      · cases hMem
  | makeTemplate r target =>
      left
      simp only [compiledBy] at hMem
      split at hMem
      · split at hMem
        · cases hMem
        · rw [List.mem_singleton.mp hMem]
          exact ⟨rfl, rfl, rfl⟩
      · cases hMem
  | render target r =>
      right
      simp only [compiledBy] at hMem
      split at hMem
      · cases hMem
      · rename_i compiled hBound
        exact (compiles_render hScope hBound r).waited t hMem
  | _ => cases hMem

/-- A step accounts for what engines compile in it. -/
def AccountedBy (s : Session Program) (step : Step Program) (after : Journal) : Prop :=
  s.journal.Accounts step.path? (s.nativeCalls step)
    ((s.compiledBy step).flatMap Template.compilations) after

/-- An engine that compiles a source as it is gets one call, and nothing is logged. -/
theorem accounts_compileNative (e : NumberedEngine Program) (source : Value)
    (path : Option String) (j : Journal) :
    j.Accounts path [⟨e.number, source, path⟩] []
      (Retag.compileNative e source path j).2 :=
  ⟨rfl, rfl, [], (List.append_nil j.events).symm, rfl, by simp⟩

theorem journal_keep (target : String)
    (r : Except Failure (Compiled Program) × Session Program) :
    (keep target r).2.journal = r.2.journal := by
  obtain ⟨answer, after⟩ := r
  cases answer <;> rfl

/-- What compiling a source with a marker set accounts for. -/
theorem accounts_compileSource {s : Session Program} (hSound : s.Sound)
    (hScope : s.journal.scope = none) (e : NumberedEngine Program) (markers : MarkerSet)
    (cache : Nat) (guard : Guard) (path : Option String) (source : Value) :
    s.journal.Accounts path (if markers.isNative then [⟨e.number, source, path⟩]
      else [])
      ((compiledFrom e markers guard path source).flatMap Template.compilations)
      (s.compile e markers cache guard path source).2.journal := by
  show s.journal.Accounts path _ _
    (Retag.compile e markers guard path source (s.cacheAt cache) s.journal).2
  cases hMarkers : markers.isNative with
  | true =>
      unfold Retag.compile compiledFrom
      simp only [hMarkers, Bool.true_or, if_true]
      exact accounts_compileNative ..
  | false =>
      exact accounts_compile e guard path source (sound_cacheAt hSound cache) hMarkers
        hScope

theorem accounted_compile {s : Session Program} (hKept : s.Kept)
    (hScope : s.journal.scope = none) (name : String) (source : Value)
    (path : Option String) (target : String) :
    s.AccountedBy (.compile name source path target)
      (s.perform (.compile name source path target)).2.journal := by
  unfold AccountedBy
  cases hEngine : s.engine? name with
  | none =>
      simp only [perform, nativeCalls, compiledBy, hEngine]
      exact .refl ..
  | some found =>
      obtain ⟨number, state⟩ := found
      have hState : state = ofPatch state.engine state.patch? :=
        hKept.regular state (mem_engines hEngine)
      have hCompile :=
        s.compileWith_ofPatch number state.engine state.patch? path source
      rw [← hState] at hCompile
      have hNative : s.journal.Accounts path [⟨some number, source, path⟩] []
          (s.compileNative ⟨some number, state.engine⟩ path source).2.journal :=
        accounts_compileNative ⟨some number, state.engine⟩ source path s.journal
      simp only [perform, nativeCalls, compiledBy, hEngine, journal_keep, hCompile]
      cases hPatch : state.patch? with
      | none => exact hNative
      | some patch =>
          cases source with
          | text text =>
              exact accounts_compileSource hKept.sound hScope ⟨some number,
                state.engine⟩ patch.markers patch.cache .default path (.text text)
          | _ => exact hNative

theorem accounted_compileTemplate {s : Session Program} (hKept : s.Kept)
    (hScope : s.journal.scope = none) (r : CompileRequest Program) (target : String) :
    s.AccountedBy (.compileTemplate r target)
      (s.perform (.compileTemplate r target)).2.journal := by
  unfold AccountedBy
  simp only [perform, journal_keep, nativeCalls, compiledBy, compileTemplate]
  cases hGuard : guardOf r.guard with
  | error fault => exact .refl ..
  | ok guard =>
      cases hMarkers : MarkerSet.ofValue r.delimiters with
      | error fault => exact .refl ..
      | ok markers =>
          cases hChosen : s.chosen? r.engine with
          | none => exact .refl ..
          | some found =>
              obtain ⟨number, state⟩ := found
              simp only [compileTemplateWith, hKept.nativeMethod_eq hChosen]
              exact accounts_compileSource hKept.sound hScope ⟨number, state.engine⟩
                markers (s.cacheNumber r.cache) guard r.path r.source

theorem accounted_makeTemplate {s : Session Program} (hScope : s.journal.scope = none)
    (r : TemplateRequest) (target : String) :
    s.AccountedBy (.makeTemplate r target)
      (s.perform (.makeTemplate r target)).2.journal := by
  unfold AccountedBy
  simp only [perform, journal_keep, nativeCalls, compiledBy, makeTemplate]
  cases hGuard : guardOf r.guard with
  | error fault => exact .refl ..
  | ok guard =>
      cases hEngine : s.engine? r.engine with
      | none => exact .refl ..
      | some found =>
          obtain ⟨number, state⟩ := found
          let draft : Template Program :=
            ⟨r.segments, guard, r.name, none, ⟨some number, state.engine⟩, none⟩
          have hName : draft.name.or s.journal.scope = draft.name := by
            rw [hScope, Option.or_none]
          have hCreate :=
            @Template.accounts_create _ none draft s.journal hName r.isLazy
          have hSame :
              (if r.isLazy then [] else [draft]).flatMap Template.compilations =
              if r.isLazy then [] else draft.compilations := by
            split
            · rfl
            · exact List.flatMap_singleton ..
          rw [← hSame] at hCreate
          exact hCreate

/-- What a step that compiles nothing logs. -/
theorem accounted_of_accounts {s : Session Program} {step : Step Program}
    {after : Journal} (hCalls : s.nativeCalls step = [])
    (hCompiled : s.compiledBy step = [])
    (hAccounts : s.journal.Accounts step.path? [] [] after) :
    s.AccountedBy step after := by
  unfold AccountedBy
  rw [hCalls, hCompiled]
  exact hAccounts

theorem accounts_ask {s : Session Program} (hScope : s.journal.scope = none)
    (number : Nat) (texts : List Text) :
    s.journal.Accounts none [] [] (s.ask ⟨number, texts, none⟩).journal := by
  have hPlain := fun e hMem => plain_insertionEvents (s.cacheAt number)
    ((s.cacheAt number).ask texts) e hMem
  have hLogged := Journal.accounts_logAll (fun e hMem => (hPlain e hMem).1)
    (fun e hMem => (hPlain e hMem).2) s.journal none
  rw [hScope] at hLogged
  exact hLogged

/-- Every step accounts for what it compiles. -/
theorem accounted_perform {s : Session Program} (hKept : s.Kept)
    (hScope : s.journal.scope = none)
    (step : Step Program) : s.AccountedBy step (s.perform step).2.journal := by
  have hLog : ∀ {e : Event}, e.isNativeCompile = false →
    e.fields.lookup templateField = none →
      s.journal.Accounts none [] [] (s.journal.log e) := by
    intro e hOther hPlain
    have hLogged := Journal.accounts_log hOther hPlain s.journal
    rwa [hScope] at hLogged
  cases step with
  | compile name source path target =>
      exact accounted_compile hKept hScope name source path target
  | compileTemplate r target => exact accounted_compileTemplate hKept hScope r target
  | makeTemplate r target => exact accounted_makeTemplate hScope r target
  | cacheGet name source =>
      refine accounted_of_accounts rfl rfl ?_
      simp only [perform, matcher_eq hKept.sound]
      exact accounts_ask hScope ..
  | cacheSame name first second =>
      refine accounted_of_accounts rfl rfl ?_
      simp only [perform, cacheSame_eq hKept.sound (hKept.cacheNumber_lt (some name))]
      exact accounts_ask hScope ..
  | rewrite source isEscaping text cache =>
      refine accounted_of_accounts rfl rfl ?_
      simp only [perform, rewrite, matcher_eq hKept.sound]
      cases matcherOf source <;> exact accounts_ask hScope ..
  | install name delimiters cache =>
      refine accounted_of_accounts rfl rfl ?_
      simp only [perform, install]
      split
      · exact .refl ..
      · split
        · exact .refl ..
        · exact hLog rfl rfl
  | uninstall name =>
      refine accounted_of_accounts rfl rfl ?_
      simp only [perform, uninstall]
      split
      · exact hLog rfl rfl
      · exact .refl ..
  | inspect target =>
      refine accounted_of_accounts rfl rfl ?_
      simp only [perform]
      split <;> exact .refl ..
  | render target r =>
      unfold AccountedBy
      cases hBound : s.templates.lookup target with
      | none =>
          simp only [perform, nativeCalls, compiledBy, hBound]
          exact .refl ..
      | some compiled =>
          simp only [perform, nativeCalls, compiledBy, hBound]
          exact (compiles_render hScope hBound r).accounts
  | _ => exact accounted_of_accounts rfl rfl (.refl ..)

/-! ## Names -/

/-- Every template that stands under a name has a name and a path of a kind. -/
def Named (s : Session Program) (kind : Option String → Option String → Prop) :
    Prop :=
  ∀ entry ∈ s.templates, ∀ t, entry.2 = .template t → kind t.name t.path

variable {kind : Option String → Option String → Prop}

theorem Named.bind {s : Session Program} (hNamed : s.Named kind) (name : String)
    {compiled : Compiled Program}
    (hCompiled : ∀ t, compiled = .template t → kind t.name t.path) :
    (s.bind name compiled).Named kind := by
  intro entry hMem t hSame
  rcases mem_putEntry hMem with hNew | hOld
  · rw [hNew] at hSame
    exact hCompiled t hSame
  · exact hNamed entry hOld t hSame

theorem named_ensureInserted {s : Session Program} (hNamed : s.Named kind)
    (names : InclusionNames) (inserted : List String) :
    (s.ensureInserted names inserted).Named kind := by
  unfold ensureInserted
  generalize inserted.filterMap (fun name => names.lookup name) = found
  induction found generalizing s with
  | nil => exact hNamed
  | cons name found ih =>
      refine ih ?_
      unfold ensureCompiled
      split
      · rename_i t hBound
        have hKind : kind t.name t.path := hNamed _ (mem_of_lookup hBound) t rfl
        split
        · rename_i program j _
          refine @Named.bind _ _ { s with journal := j } hNamed name _ ?_
          intro u hSame
          cases hSame
          exact hKind
        · exact hNamed
      · exact hNamed

theorem named_render {s : Session Program} (hNamed : s.Named kind) {name : String}
    {compiled : Compiled Program} (hBound : s.templates.lookup name = some compiled)
    (r : RenderRequest) : (s.render name compiled r).2.Named kind := by
  cases compiled with
  | native engine program =>
      refine named_ensureInserted (hNamed.bind name ?_) _ _
      intro t hSame
      cases hSame
  | template t =>
      have hKind : kind t.name t.path := hNamed _ (mem_of_lookup hBound) t rfl
      simp only [render, Template.render_eq]
      refine named_ensureInserted
        (@Named.bind _ _ { s with journal := (t.programOr s.journal).2 } hNamed name _
          ?_) _ _
      intro u hSame
      unfold Template.rendered at hSame
      split at hSame
      · cases hSame
        exact hKind
      · cases hSame
        exact hKind

theorem named_keep {s : Session Program} (hNamed : s.Named kind)
    {r : Except Failure (Compiled Program) × Session Program}
    (hTemplates : r.2.templates = s.templates)
    (hMade : ∀ t, r.1 = .ok (.template t) → kind t.name t.path) (target : String) :
    (keep target r).2.Named kind := by
  obtain ⟨answer, after⟩ := r
  have hAfter : after.Named kind := by
    unfold Named
    rw [hTemplates]
    exact hNamed
  cases answer with
  | error fault => exact hAfter
  | ok compiled =>
      exact hAfter.bind target fun t hSame => hMade t (congrArg Except.ok hSame)

/-- A step that compiles a source or makes a template names it. -/
theorem named_perform {s : Session Program} (hKept : s.Kept) (hNamed : s.Named kind)
    {step : Step Program} (hStep : ∀ name path, step.Names name path →
      kind name path) :
    (s.perform step).2.Named kind := by
  have hCompiles : ∀ {target : String}, step.compiles? = some target →
      (∀ e path, s.origin? step = some (e, path) → step.Names path path) →
      (s.perform step).2.Named kind := by
    intro target hTarget hOrigin
    rcases perform_of_compiles? hKept hTarget with
      ⟨hSame, -⟩ | ⟨e, path, r, hFrom, hMade, hPerform⟩
    · rw [hSame]
      exact hNamed
    · rw [hPerform]
      refine named_keep hNamed hMade.templates_eq (fun t hOk => ?_) target
      obtain ⟨-, hPath, hName, -⟩ := hMade.madeBy _ hOk
      rw [hPath, hName]
      exact hStep path path (hOrigin e path hFrom)
  cases step with
  | compile name source path target =>
      refine hCompiles rfl fun e other hFrom => ?_
      obtain ⟨found, -, hFound⟩ := Option.map_eq_some_iff.mp hFrom
      obtain ⟨-, rfl⟩ := Prod.mk.inj hFound
      exact ⟨rfl, rfl⟩
  | compileTemplate r target =>
      refine hCompiles rfl fun e other hFrom => ?_
      obtain ⟨found, -, hFound⟩ := Option.map_eq_some_iff.mp hFrom
      obtain ⟨-, rfl⟩ := Prod.mk.inj hFound
      exact ⟨rfl, rfl⟩
  | makeTemplate r target =>
      have hMade : (s.makeTemplate r).2.templates = s.templates ∧
          ∀ t, (s.makeTemplate r).1 = .ok (.template t) → kind t.name t.path := by
        unfold makeTemplate
        split
        · exact ⟨rfl, fun t hOk => by cases hOk⟩
        · split
          · exact ⟨rfl, fun t hOk => by cases hOk⟩
          · refine ⟨rfl, fun t hOk => ?_⟩
            obtain ⟨made, hCreate, hSame⟩ := map_eq_ok hOk
            obtain ⟨⟨program, rfl⟩, -⟩ := Template.create_eq_ok rfl hCreate
            cases hSame
            exact hStep r.name none ⟨rfl, rfl⟩
      exact named_keep hNamed hMade.1 hMade.2 target
  | render target r =>
      cases hBound : s.templates.lookup target with
      | none =>
          simp only [perform, hBound]
          exact hNamed
      | some compiled =>
          simp only [perform, hBound]
          exact named_render hNamed hBound r
  | cacheSame name first second =>
      simp only [perform, cacheSame_eq hKept.sound (hKept.cacheNumber_lt (some name))]
      exact hNamed
  | rewrite source isEscaping text cache =>
      simp only [perform, rewrite, matcher_eq hKept.sound]
      cases matcherOf source <;> exact hNamed
  | install name delimiters cache =>
      simp only [perform, install]
      split
      · exact hNamed
      · split <;> exact hNamed
  | uninstall name =>
      simp only [perform, uninstall]
      split <;> exact hNamed
  | inspect target =>
      simp only [perform]
      split <;> exact hNamed
  | _ => exact hNamed

/-- In a session that can be reached no name is in scope, and every template
is named by a step that made it. -/
theorem named_reached (before : List (Step Program)) :
    (reached before : Session Program).journal.scope = none ∧
      (reached before : Session Program).Named fun name path =>
        ∃ maker ∈ before, maker.Names name path := by
  induction before using List.reverseRecOn with
  | nil => exact ⟨rfl, fun entry hMem => by cases hMem⟩
  | append_singleton before step ih =>
      obtain ⟨hScope, hNamed⟩ := ih
      have hKept : (reached before : Session Program).quiet.Kept :=
        (kept_reached before).1.quiet
      have hReached : (reached (before ++ [step]) : Session Program) =
          ((reached before).quiet.perform step).2 := reached_append before [step]
      rw [hReached]
      constructor
      · exact (accounted_perform hKept hScope step).scope_eq.trans hScope
      · refine named_perform hKept ?_ fun name path hNames =>
          ⟨step, List.mem_append_right _ (List.mem_singleton_self step), hNames⟩
        intro entry hMem t hSame
        obtain ⟨maker, hMaker, hNames⟩ := hNamed entry hMem t hSame
        exact ⟨maker, List.mem_append_left _ hMaker, hNames⟩

/-- Every step of every session accounts for what engines compile in it.

The calls are those for sources that an engine gets as they are, and those for
the templates that the step compiles, `Session.compiledBy`.  These had no
program before, and each is named by a step that made it.  The events that tell
how compile calls ended are those of the same compilations, in order: each says
what came of the call that it stands beside, how many segments the template has
and whether compiling it was slow, and carries the template's name.  Every other
event carries the path of the source that the step compiles.  No name is left in
scope, whether the step fails or not. -/
theorem native_compiles_are_accounted (before : List (Step Program))
    (step : Step Program) :
    let s : Session Program := (reached before).quiet
    let journal := ((reached before : Session Program).advance step).2.journal
    let compilations := (s.compiledBy step).flatMap Template.compilations
    (∀ t ∈ s.compiledBy step, t.isCompiled = false ∧
      ∃ maker ∈ before ++ [step], maker.Names t.name t.path) ∧
    journal.calls = s.nativeCalls step ++ compilations.map (·.call) ∧
    journal.events.filter Event.isNativeCompile = compilations.map (·.event) ∧
    (∀ e ∈ journal.events, e.isNativeCompile = false →
      e.templateName = shownName step.path?) ∧
    journal.scope = none := by
  intro s journal compilations
  obtain ⟨hScope, hNamed⟩ := named_reached before
  have hKept : s.Kept := (kept_reached before).1.quiet
  have hOutside : s.journal.scope = none := hScope
  have hAccounts : s.journal.Accounts step.path? (s.nativeCalls step) compilations
      journal :=
    accounted_perform hKept hOutside step
  obtain ⟨events, hEvents, hNative, hNames⟩ := hAccounts.events_eq
  have hAll : journal.events = events := hEvents
  refine ⟨fun t hMem => ?_, hAccounts.calls_eq, ?_, ?_,
    hAccounts.scope_eq.trans hOutside⟩
  · rcases draft_of_mem_compiledBy hOutside hMem with
      ⟨hProgram, hMade⟩ | ⟨hProgram, name, hBound⟩
    · exact ⟨congrArg Option.isSome hProgram, step,
        List.mem_append_right _ (List.mem_singleton_self step), hMade⟩
    · obtain ⟨maker, hMaker, hMade⟩ := hNamed _ (mem_of_lookup hBound) t rfl
      exact ⟨congrArg Option.isSome hProgram, maker, List.mem_append_left _ hMaker,
        hMade⟩
  · rw [hAll]
    exact hNative
  · rw [hAll]
    exact hNames

end Session

end Retag

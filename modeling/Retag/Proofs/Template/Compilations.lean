import Retag.Proofs.Cache.Requests
import Retag.Proofs.Computation
import Retag.Proofs.Decimal.Comparing
import Retag.Proofs.Template.Runs

/-!
# The compilations of a template

When a template is compiled its engine gets one call, and one event tells how
the call ended.  `Template.compilations` pairs the two as the template alone
determines them: the event says how many segments the template has, how long
the engine took and whether that was slow, and it carries the name of the
template, unless the name is empty.

A journal accounts for compilations if what was added to it is their calls and
their events, in order, and other events that carry one given name.  That is
kept by everything that compiles, whether now or with the first rendering.

## Main results

* `Template.compileEvent`: the event of a compilation.
* `Template.accounts_build`, `Template.accounts_create`,
  `Template.accounts_programOr`: compiling a template.
* `compiledFrom`, `accounts_compile`: compiling a source with a marker set.
-/

namespace Retag

namespace Log

/-! ## Names of templates in events -/

/-- The field with the name of a template, unless the name is empty. -/
def nameFields : Option String → List (String × Value)
  | none => []
  | some name => if name.isEmpty then [] else [(templateField, .text name)]

/-- The name of a template that an event carries. -/
def Event.templateName (e : Event) : Option Value := e.fields.lookup templateField

/-- The name that the events of a template carry. -/
def shownName (name : Option String) : Option Value :=
  (nameFields name).lookup templateField

theorem withTemplate_eq {fields : List (String × Value)}
    (hNone : fields.lookup templateField = none) (scope : Option String) :
    withTemplate scope fields = fields ++ nameFields scope := by
  cases scope with
  | none => exact (List.append_nil fields).symm
  | some name =>
      unfold withTemplate nameFields
      rw [hNone]
      cases hEmpty : name.isEmpty with
      | true => simp [hEmpty]
      | false => simp [hEmpty]

/-- An event that has no such field itself carries the name in scope. -/
theorem templateName_inScope {e : Event} (hNone : e.fields.lookup templateField = none)
    (scope : Option String) : (e.inScope scope).templateName = shownName scope := by
  unfold Event.templateName Event.inScope
  rw [withTemplate_eq hNone, List.lookup_append, hNone]
  rfl

/-- Whether an event tells how a compile call of a template ended. -/
def Event.isNativeCompile (e : Event) : Bool :=
  e.text == "Native compile completed" || e.text == "Native compile failed"

/-- A compile call with the event that tells how it ended. -/
structure Compilation where
  call : CompileCall
  event : Event

end Log

open Log

variable {Program : Type}

namespace Template

/-! ## One compilation -/

/-- The milliseconds that the engine takes to compile. -/
def compileTime (t : Template Program) : Rat := t.engine.engine.cost * 1000

/-- Whether compiling takes longer than fifty milliseconds. -/
def isSlow (t : Template Program) : Bool := decide (50 < t.compileTime)

/-- The event that tells how compiling a text ended. -/
def compileEvent (t : Template Program) (text : Text) : Event :=
  match t.engine.engine.compile (.text (String.ofList text)) t.path with
  | .ok _ =>
    ⟨if t.isSlow then .warning else .debug, "Native compile completed",
      [("duration_ms", .float (Stopwatch.nearest t.compileTime)),
        ("slow", .bool t.isSlow), ("segments", .int t.segments.length)] ++
        nameFields t.name⟩
  | .error fault =>
    ⟨.error, "Native compile failed",
      [("duration_ms", .float (Stopwatch.nearest t.compileTime)),
        ("error", .text fault.message), ("error_type", .text fault.name),
        ("segments", .int t.segments.length)] ++ nameFields t.name⟩

/-- What compiling the template comes to: one call with its event, or nothing
if there is no native text. -/
def compilations (t : Template Program) : List Compilation :=
  match t.nativeText with
  | .ok text =>
    [⟨⟨t.engine.number, .text (String.ofList text), t.path⟩,
      t.compileEvent text⟩]
  | .error _ => []

theorem isNativeCompile_compileEvent (t : Template Program) (text : Text) :
    (t.compileEvent text).isNativeCompile = true := by
  unfold compileEvent
  cases t.engine.engine.compile (.text (String.ofList text)) t.path with
  | ok program => rfl
  | error fault => rfl

/-- What the stopwatch logs is that event. -/
theorem ended_eq_compileEvent (t : Template Program) (text : Text) (start : Rat) :
    (t.timing.ended
      (((Stopwatch.unused.enter start).exit (start + t.engine.engine.cost)).duration
        (start + t.engine.engine.cost))
      (fault? (t.engine.engine.compile (.text (String.ofList text)) t.path))).inScope
        t.name = t.compileEvent text := by
  have hTime :
      ((Stopwatch.unused.enter start).exit (start + t.engine.engine.cost)).duration
        (start + t.engine.engine.cost) = t.compileTime := by
    rw [Stopwatch.duration_exit rfl, add_sub_cancel_left]
    rfl
  rw [hTime]
  unfold compileEvent
  cases t.engine.engine.compile (.text (String.ofList text)) t.path with
  | ok program =>
      show Event.inScope t.name (t.timing.completed t.compileTime) = _
      have hSlow : t.timing.limit.below t.compileTime = t.isSlow :=
        defaultLimit_below t.compileTime
      unfold Event.inScope Timing.completed
      simp only [hSlow]
      rw [withTemplate_eq rfl]
      rfl
  | error fault =>
      show Event.inScope t.name (t.timing.failed t.compileTime fault) = _
      unfold Event.inScope Timing.failed
      simp only
      rw [withTemplate_eq rfl]
      rfl

end Template

/-! ## Accounts -/

namespace Log.Journal

/-- What was added to a journal: calls of their own, the calls and the events
of compilations in order, and other events, which carry one name. -/
structure Accounts (name : Option String) (calls : List CompileCall)
    (compilations : List Compilation) (before after : Journal) : Prop where
  scope_eq : after.scope = before.scope
  calls_eq : after.calls = before.calls ++ (calls ++ compilations.map (·.call))
  events_eq : ∃ events, after.events = before.events ++ events ∧
    events.filter Event.isNativeCompile = compilations.map (·.event) ∧
    ∀ e ∈ events, e.isNativeCompile = false → e.templateName = shownName name

variable {name : Option String} {j k l : Journal} {first second : List Compilation}

theorem Accounts.refl (name : Option String) (j : Journal) : j.Accounts name [] [] j :=
  ⟨rfl, by simp, [], by simp, rfl, by simp⟩

theorem Accounts.trans (hFirst : Accounts name [] first j k)
    (hSecond : Accounts name [] second k l) :
    Accounts name [] (first ++ second) j l := by
  obtain ⟨events, hEvents, hNative, hNames⟩ := hFirst.events_eq
  obtain ⟨more, hMore, hNative', hNames'⟩ := hSecond.events_eq
  refine ⟨hSecond.scope_eq.trans hFirst.scope_eq, ?_, events ++ more, ?_, ?_, ?_⟩
  · rw [hSecond.calls_eq, hFirst.calls_eq]
    simp
  · rw [hMore, hEvents, List.append_assoc]
  · rw [List.filter_append, hNative, hNative', List.map_append]
  · intro e hMem hOther
    rcases List.mem_append.mp hMem with hMem | hMem
    · exact hNames e hMem hOther
    · exact hNames' e hMem hOther

/-- Events of another kind are logged in a scope. -/
theorem accounts_logAll {events : List Event}
    (hOther : ∀ e ∈ events, e.isNativeCompile = false)
    (hPlain : ∀ e ∈ events, e.fields.lookup templateField = none)
    (j : Journal) (name : Option String) :
    j.Accounts (name.or j.scope) [] [] (j.logAll name events) := by
  refine ⟨rfl, by simp [logAll], _, rfl, ?_, ?_⟩
  · rw [List.map_nil, List.filter_eq_nil_iff]
    intro e hMem
    obtain ⟨plain, hPlainMem, rfl⟩ := List.mem_map.mp hMem
    have hKind : (plain.inScope (name.or j.scope)).isNativeCompile =
        plain.isNativeCompile := rfl
    rw [hKind, hOther plain hPlainMem]
    exact Bool.false_ne_true
  · intro e hMem _
    obtain ⟨plain, hPlainMem, rfl⟩ := List.mem_map.mp hMem
    exact templateName_inScope (hPlain plain hPlainMem) _

theorem accounts_log {e : Event} (hOther : e.isNativeCompile = false)
    (hPlain : e.fields.lookup templateField = none) (j : Journal) :
    j.Accounts j.scope [] [] (j.log e) := by
  have hAll :=
    @accounts_logAll [e] (by simpa using hOther) (by simpa using hPlain) j none
  rwa [logAll_singleton, Option.none_or] at hAll

/-- Work in a scope accounts for what it accounts for by itself. -/
theorem Accounts.inScope {α : Type} {work : Journal → α × Journal}
    {calls : List CompileCall} (scope : Option String)
    (hWork : Accounts name calls first { j with scope := scope.or j.scope }
      (work { j with scope := scope.or j.scope }).2) :
    Accounts name calls first j (j.inScope scope work).2 := by
  cases scope with
  | none => exact hWork
  | some name => exact ⟨rfl, hWork.calls_eq, hWork.events_eq⟩

end Log.Journal

namespace Template

/-! ## Compiling a template -/

variable {name : Option String} {t : Template Program} {j : Journal}

/-- A template is compiled under its own name, unless it has none and another
name is in scope. -/
theorem accounts_build (hScope : t.name.or j.scope = t.name) :
    j.Accounts name [] t.compilations (t.build j).2 := by
  unfold build compilations
  cases hText : t.nativeText with
  | error e => exact .refl name j
  | ok text =>
      refine Journal.Accounts.inScope t.name ?_
      rw [timed_eq_log]
      refine ⟨rfl, rfl, [t.compileEvent text], ?_, ?_, ?_⟩
      · show j.events ++ [_] = _
        rw [← t.ended_eq_compileEvent text j.clock, hScope]
        rfl
      · rw [List.filter_cons_of_pos (t.isNativeCompile_compileEvent text)]
        rfl
      · intro e hMem hOther
        rw [List.mem_singleton.mp hMem, t.isNativeCompile_compileEvent text] at hOther
        cases hOther

theorem accounts_programOr (hScope : t.name.or j.scope = t.name) :
    j.Accounts name [] (if t.isCompiled then [] else t.compilations)
      (t.programOr j).2 := by
  unfold programOr isCompiled
  cases t.program with
  | some program => exact .refl name j
  | none => exact accounts_build hScope

theorem accounts_create (hScope : t.name.or j.scope = t.name) (isLazy : Bool) :
    j.Accounts name [] (if isLazy then [] else t.compilations)
      (create isLazy t j).2 := by
  cases isLazy with
  | true => exact .refl name j
  | false => exact accounts_build hScope

end Template

/-! ## Compiling a source -/

/-- What caches log carries no name of its own. -/
theorem plain_insertionEvents (c d : MatcherCache) :
    ∀ e ∈ c.insertionEvents d,
      e.isNativeCompile = false ∧ e.fields.lookup templateField = none := by
  intro e hMem
  obtain ⟨added, -, rfl⟩ := List.mem_map.mp hMem
  exact ⟨rfl, rfl⟩

/-- The segments of a source with a marker set, without a cache. -/
def MarkerSet.segmentsOf (markers : MarkerSet) (source : Value) :
    Except Failure (List Segment) := do
  (← markers.compileMatchers).segmentsOf source

/-- The templates that are compiled when a source is compiled with a marker set:
the template of its segments, unless it is lazy.  There is none if the markers
are the engine's own or the source cannot be taken apart. -/
def compiledFrom (e : NumberedEngine Program) (markers : MarkerSet) (guard : Guard)
    (path : Option String) (source : Value) : List (Template Program) :=
  if markers.isNative || markers.isTwoTier then []
  else
    match markers.segmentsOf source with
    | .ok segments => [⟨segments, guard, path, path, e, none⟩]
    | .error _ => []

section Sources

variable (e : NumberedEngine Program) {markers : MarkerSet} (guard : Guard)
  (path : Option String) (source : Value) {j : Journal}

/-- Such a template had no program before, is named for the path, and gives the
path to its engine. -/
theorem draft_of_mem_compiledFrom {t : Template Program}
    (hMem : t ∈ compiledFrom e markers guard path source) :
    t.program = none ∧ t.name = path ∧ t.path = path := by
  unfold compiledFrom at hMem
  split at hMem
  · cases hMem
  · split at hMem
    · rw [List.mem_singleton.mp hMem]
      exact ⟨rfl, rfl, rfl⟩
    · cases hMem

/-- The work behind the requests to a cache accounts for the compilations of
the template that is made, if one is. -/
theorem accounts_templateWork (hMarkers : markers.isNative = false)
    (hScope : j.scope = path) :
    j.Accounts path []
      ((compiledFrom e markers guard path source).flatMap Template.compilations)
      (templateWork e markers guard path source j).2 := by
  unfold compiledFrom MarkerSet.segmentsOf templateWork
  rw [hMarkers, Bool.false_or]
  cases markers.compileMatchers with
  | error fault =>
      have hFails : (Except.error fault >>= fun matchers : Matchers =>
          matchers.segmentsOf source) = .error fault := rfl
      simp only [hFails, ite_self]
      exact .refl path j
  | ok matchers =>
      rw [ok_bind]
      cases hSegments : matchers.segmentsOf source with
      | error fault =>
          simp only [hSegments, ite_self]
          exact .refl path j
      | ok segments =>
          have hScanned :
              j.Accounts path [] [] (j.log (scannedEvent markers segments)) := by
            have hLog :=
              Journal.accounts_log (e := scannedEvent markers segments) rfl rfl j
            rwa [hScope] at hLog
          have hNamed : path.or (j.log (scannedEvent markers segments)).scope =
              path := by
            rw [Journal.scope_log, hScope]
            cases path <;> rfl
          have hCreate := @Template.accounts_create _ path
            (⟨segments, guard, path, path, e, none⟩ : Template Program) _ hNamed
            markers.isTwoTier
          have hBoth := hScanned.trans hCreate
          simp only [hSegments]
          rw [List.nil_append] at hBoth
          refine Eq.subst (motive := fun c => j.Accounts path [] c _) ?_ hBoth
          split
          · rfl
          · exact (List.flatMap_singleton ..).symm

/-- Compiling a source with markers of one's own, outside all scopes. -/
theorem accounts_compile {c : MatcherCache} (hSound : c.Sound)
    (hMarkers : markers.isNative = false) (hScope : j.scope = none) :
    j.Accounts path []
      ((compiledFrom e markers guard path source).flatMap Template.compilations)
      (compile e markers guard path source c j).2 := by
  have hName : path.or j.scope = path := by
    rw [hScope, Option.or_none]
  have hInserted := fun e hMem => plain_insertionEvents c (c.ask markers.asks) e hMem
  have hLogged := Journal.accounts_logAll (fun e hMem => (hInserted e hMem).1)
    (fun e hMem => (hInserted e hMem).2) j path
  rw [hName] at hLogged
  let logged := j.logAll path (c.insertionEvents (c.ask markers.asks))
  have hScoped : path.or logged.scope = path := hName
  have hWork :=
    accounts_templateWork (j := { logged with scope := path.or logged.scope })
    e guard path source hMarkers hScoped
  have hBoth := hLogged.trans (Journal.Accounts.inScope path hWork)
  rw [List.nil_append] at hBoth
  rw [compile_eq hSound]
  simp only [compileAnew, hMarkers, Bool.false_eq_true, if_false]
  exact hBoth

end Sources

end Retag

import Retag.Compile

/-!
# Journals up to what caches log

A cache logs every matcher that it adds, so two runs that find different
matchers in their caches leave different journals behind.  `Journal.Alike`
looks past these events: two journals are alike if everything else in them is
the same.

Work that asks no cache cannot tell such journals apart and adds no such
event itself: it is `Steady`.  Putting names in scope and timing keep work
steady, and so all that happens to a template behind the caches is steady.

## Main results

* `steady_build`, `steady_programOr`, `steady_create`: the life of a template.
* `steady_compileNative`, `steady_templateOf`: compiling without a cache.
-/

namespace Retag

namespace Log

/-! ## Events of caches -/

/-- Whether an event tells of a matcher that was added to a cache. -/
def Event.isInsertion (e : Event) : Bool := e.text == "Matcher compiled"

@[simp] theorem Event.isInsertion_inScope (scope : Option String) (e : Event) :
    (e.inScope scope).isInsertion = e.isInsertion := rfl

namespace Journal

/-- The events of caches. -/
def insertions (j : Journal) : List Event := j.events.filter Event.isInsertion

/-- All other events. -/
def others (j : Journal) : List Event := j.events.filter fun e => !e.isInsertion

/-- Logs events, one after the other, while a name is bound. -/
def logAll (j : Journal) (name : Option String) (events : List Event) : Journal :=
  { j with events := j.events ++ events.map (Event.inScope (name.or j.scope)) }

@[simp] theorem logAll_nil (j : Journal) (name : Option String) :
    j.logAll name [] = j := by
  obtain ⟨clock, scope, events, calls⟩ := j
  simp [logAll]

theorem logAll_singleton (j : Journal) (e : Event) : j.logAll none [e] = j.log e := rfl

theorem logAll_append (j : Journal) (name : Option String) (first second : List Event) :
    j.logAll name (first ++ second) = (j.logAll name first).logAll name second := by
  simp [logAll]

/-- Events that work logs before all else are logged before the work. -/
theorem inScope_logAll {α : Type} (name : Option String)
    (work : Journal → α × Journal) (events : List Event) (j : Journal) :
    j.inScope name (fun k => work (k.logAll none events)) =
      (j.logAll name events).inScope name work := by
  cases name <;> rfl

theorem insertions_log {e : Event} (hOther : e.isInsertion = false) (j : Journal) :
    (j.log e).insertions = j.insertions := by
  simp [insertions, log, hOther]

theorem insertions_logAll {events : List Event}
    (hEvents : ∀ e ∈ events, e.isInsertion = true) (j : Journal)
    (name : Option String) :
    (j.logAll name events).insertions =
      j.insertions ++ events.map (Event.inScope (name.or j.scope)) := by
  have hKept : (events.map (Event.inScope (name.or j.scope))).filter Event.isInsertion =
      events.map (Event.inScope (name.or j.scope)) := by
    rw [List.filter_eq_self]
    intro e hMem
    obtain ⟨plain, hPlain, rfl⟩ := List.mem_map.mp hMem
    exact hEvents plain hPlain
  rw [insertions, logAll, List.filter_append, hKept]
  rfl

/-! ## Journals that are alike -/

/-- The second journal is the first one but for the events of caches. -/
structure Alike (j k : Journal) : Prop where
  clock_eq : k.clock = j.clock
  scope_eq : k.scope = j.scope
  calls_eq : k.calls = j.calls
  others_eq : k.others = j.others

variable {j k : Journal}

@[simp] theorem Alike.refl (j : Journal) : j.Alike j := ⟨rfl, rfl, rfl, rfl⟩

theorem Alike.log (hAlike : j.Alike k) (e : Event) : (j.log e).Alike (k.log e) := by
  refine ⟨hAlike.clock_eq, hAlike.scope_eq, hAlike.calls_eq, ?_⟩
  have hOthers := hAlike.others_eq
  unfold others at hOthers ⊢
  simp only [Journal.log, List.filter_append, hOthers, hAlike.scope_eq]

/-- Logging what caches log makes no difference. -/
theorem Alike.logAll (hAlike : j.Alike k) (name : Option String)
    {events more : List Event} (hEvents : ∀ e ∈ events, e.isInsertion = true)
    (hMore : ∀ e ∈ more, e.isInsertion = true) :
    (j.logAll name events).Alike (k.logAll name more) := by
  have hHidden : ∀ (scope : Option String) (logged : List Event),
      (∀ e ∈ logged, e.isInsertion = true) →
        (logged.map (Event.inScope scope)).filter (fun e => !e.isInsertion) = [] := by
    intro scope logged hLogged
    rw [List.filter_eq_nil_iff]
    intro e hMem
    obtain ⟨plain, hPlain, rfl⟩ := List.mem_map.mp hMem
    simp [hLogged plain hPlain]
  refine ⟨hAlike.clock_eq, hAlike.scope_eq, hAlike.calls_eq, ?_⟩
  have hOthers := hAlike.others_eq
  unfold others at hOthers ⊢
  simp only [Journal.logAll, List.filter_append, hHidden _ _ hEvents, hHidden _ _ hMore,
    hOthers]

theorem Alike.record (hAlike : j.Alike k) (c : CompileCall) :
    (j.record c).Alike (k.record c) :=
  ⟨hAlike.clock_eq, hAlike.scope_eq, congrArg (· ++ [c]) hAlike.calls_eq,
    hAlike.others_eq⟩

theorem Alike.pass (hAlike : j.Alike k) (seconds : Rat) :
    (j.pass seconds).Alike (k.pass seconds) :=
  ⟨congrArg (· + seconds) hAlike.clock_eq, hAlike.scope_eq, hAlike.calls_eq,
    hAlike.others_eq⟩

theorem Alike.withScope (hAlike : j.Alike k) (scope : Option String) :
    Alike { j with scope := scope } { k with scope := scope } :=
  ⟨hAlike.clock_eq, rfl, hAlike.calls_eq, hAlike.others_eq⟩

theorem Alike.clear (hAlike : j.Alike k) : j.clear.Alike k.clear :=
  ⟨hAlike.clock_eq, hAlike.scope_eq, rfl, rfl⟩

end Journal

end Log

open Log

/-! ## Steady work -/

/-- Work that does not look at the events of caches and adds none. -/
structure Steady {α : Type} (work : Journal → α × Journal) : Prop where
  /-- On journals that are alike it gives the same answer. -/
  fst_eq : ∀ {j k : Journal}, j.Alike k → (work k).1 = (work j).1
  /-- It leaves journals that are alike. -/
  alike : ∀ {j k : Journal}, j.Alike k → (work j).2.Alike (work k).2
  insertions_eq : ∀ j, (work j).2.insertions = j.insertions

section Steady

variable {α β : Type} {work : Journal → α × Journal}

theorem steady_answer (a : α) : Steady fun j => (a, j) where
  fst_eq _ := rfl
  alike hAlike := hAlike
  insertions_eq _ := rfl

theorem Steady.map (hWork : Steady work) (f : α → β) :
    Steady fun j => (f (work j).1, (work j).2) where
  fst_eq hAlike := congrArg f (hWork.fst_eq hAlike)
  alike hAlike := hWork.alike hAlike
  insertions_eq := hWork.insertions_eq

/-- Work that goes on with what other work answered. -/
theorem Steady.bind (hWork : Steady work) {next : α → Journal → β × Journal}
    (hNext : ∀ a, Steady (next a)) : Steady fun j => next (work j).1 (work j).2 where
  fst_eq hAlike := by
    rw [hWork.fst_eq hAlike]
    exact (hNext _).fst_eq (hWork.alike hAlike)
  alike hAlike := by
    rw [hWork.fst_eq hAlike]
    exact (hNext _).alike (hWork.alike hAlike)
  insertions_eq j := ((hNext _).insertions_eq _).trans (hWork.insertions_eq j)

theorem steady_log {e : Event} (hOther : e.isInsertion = false) (a : α) :
    Steady fun j => (a, j.log e) where
  fst_eq _ := rfl
  alike hAlike := hAlike.log e
  insertions_eq := Journal.insertions_log hOther

theorem Steady.inScope (hWork : Steady work) (name : Option String) :
    Steady (Journal.inScope name work) := by
  cases name with
  | none => exact hWork
  | some name =>
      refine ⟨fun hAlike => hWork.fst_eq (hAlike.withScope _), fun {j k} hAlike => ?_,
        fun j => hWork.insertions_eq _⟩
      have hAfter := (hWork.alike (hAlike.withScope (some name))).withScope j.scope
      show Journal.Alike _ { (work { k with scope := some name }).2 with
          scope := k.scope }
      rw [hAlike.scope_eq]
      exact hAfter

/-- The fault of work that failed. -/
def fault? : Except EngineFault α → Option EngineFault
  | .ok _ => none
  | .error fault => some fault

theorem timed_eq_log (t : Timing) (work : Journal → Except EngineFault α × Journal)
    (j : Journal) :
    timed t work j =
      ((work j).1, (work j).2.log (t.ended (((Stopwatch.unused.enter j.clock).exit
      (work j).2.clock).duration (work j).2.clock) (fault? (work j).1))) := by
  unfold timed
  cases hAnswer : (work j).1 with
  | ok x =>
      simp only [hAnswer]
      rfl
  | error fault =>
      simp only [hAnswer]
      rfl

/-- Timing logs how the work ended, and reads only the clock. -/
theorem steady_timed {t : Timing} {work : Journal → Except EngineFault α × Journal}
    (hWork : Steady work) (hCompleted : ∀ d, (t.completed d).isInsertion = false)
    (hFailed : ∀ d fault, (t.failed d fault).isInsertion = false) :
    Steady (timed t work) := by
  refine ⟨fun hAlike => ?_, fun hAlike => ?_, fun j => ?_⟩
  · rw [timed_eq_log, timed_eq_log]
    exact hWork.fst_eq hAlike
  · have hAfter := hWork.alike hAlike
    rw [timed_eq_log, timed_eq_log, hWork.fst_eq hAlike, hAlike.clock_eq,
      hAfter.clock_eq]
    exact hAfter.log _
  · rw [timed_eq_log, ← hWork.insertions_eq j]
    refine Journal.insertions_log ?_ _
    cases (work j).1 with
    | ok x => exact hCompleted _
    | error fault => exact hFailed _ _

end Steady

/-! ## Engines and templates -/

variable {Program : Type}

theorem steady_engine (e : NumberedEngine Program) (source : Value)
    (path : Option String) :
    Steady (e.compile source path) where
  fst_eq _ := rfl
  alike hAlike := (hAlike.record _).pass _
  insertions_eq _ := rfl

theorem steady_compileNative (e : NumberedEngine Program) (source : Value)
    (path : Option String) : Steady (compileNative e source path) :=
  (steady_engine e source path).map fun answer =>
    (orFail .engine answer).map (Compiled.native e.engine)

namespace Template

theorem steady_compileText (t : Template Program) (text : Text) :
    Steady (t.compileText text) :=
  (steady_timed (steady_engine t.engine _ t.path) (fun _ => by rfl)
    fun _ _ => by rfl).inScope
    t.name

theorem steady_build (t : Template Program) : Steady t.build := by
  unfold build
  cases t.nativeText with
  | error e => exact steady_answer _
  | ok text => exact (t.steady_compileText text).map (orFail .engine)

theorem steady_programOr (t : Template Program) : Steady t.programOr := by
  unfold programOr
  cases t.program with
  | some program => exact steady_answer _
  | none => exact t.steady_build

theorem steady_create (isLazy : Bool) (t : Template Program) :
    Steady (create isLazy t) := by
  cases isLazy with
  | true => exact steady_answer _
  | false => exact t.steady_build.map fun answer => answer.map t.withProgram

/-- What a rendering gives besides the journal, when compiling has given an answer. -/
def rendered (t : Template Program) (call : Call) :
    Except Failure Program → Except Failure Text × List String × Template Program
  | .error e => (.error e, [], t)
  | .ok program =>
    let r := t.engine.engine.render program call
    (t.restored r.answer, r.inserted, t.withProgram r.program)

theorem render_eq (t : Template Program) (call : Call) (j : Journal) :
    t.render call j =
      ⟨(t.rendered call (t.programOr j).1).1, (t.rendered call (t.programOr j).1).2.1,
        (t.rendered call (t.programOr j).1).2.2, (t.programOr j).2⟩ := by
  unfold render
  rcases t.programOr j with ⟨answer, after⟩
  cases answer <;> rfl

end Template

theorem steady_templateOf (e : NumberedEngine Program) (markers : MarkerSet)
    (guard : Guard) (path : Option String) (segments : List Segment) :
    Steady (templateOf e markers guard path segments) :=
  (steady_log (by rfl) ()).bind fun _ => Template.steady_create _ _

end Retag

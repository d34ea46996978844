import Retag.Proofs.Cache.Requests
import Retag.Proofs.Session.Engines

/-!
# Sessions up to their caches

Two sessions are alike if they differ in nothing but the matchers that their
caches hold and what was logged when these were added.  An operation that
asks a cache for some texts is transparent if no such difference shows: it
answers the same, leaves sessions that are alike, and all that happens to the
caches and to their events is what the requests make of them.

Steady work behind some requests is transparent, and so is what goes on with
the answer of a transparent operation without asking a cache again.  All
operations of a session are put together in these two ways.

## Main results

* `transparent_of_steady`, `Transparent.bind`: how operations are put together.
* `transparent_compile`, `transparent_render`: compiling and rendering.
-/

namespace Retag

open Log

variable {Program : Type} {α β : Type}

/-- What is asked of a cache: the number of the cache, the texts, and the name
that is bound meanwhile. -/
structure CacheRequests where
  number : Nat
  texts : List Text
  path : Option String

/-- Nothing is asked of a cache. -/
def CacheRequests.none : CacheRequests := ⟨0, [], .none⟩

namespace Session

/-! ## Caches and requests -/

/-- All caches are sound. -/
def Sound (s : Session Program) : Prop := ∀ c ∈ s.caches, c.Sound

theorem sound_cacheAt {s : Session Program} (hSound : s.Sound) (number : Nat) :
    (s.cacheAt number).Sound := by
  unfold cacheAt
  rw [List.getD_eq_getElem?_getD]
  cases hCache : s.caches[number]? with
  | none => exact MatcherCache.sound_empty
  | some c => exact hSound c (List.mem_of_getElem? hCache)

/-- The caches after some requests. -/
def cachesAfter (s : Session Program) (r : CacheRequests) : List MatcherCache :=
  s.caches.modify r.number (·.ask r.texts)

/-- What the cache logs. -/
def eventsOf (s : Session Program) (r : CacheRequests) : List Event :=
  (s.cacheAt r.number).insertionEvents ((s.cacheAt r.number).ask r.texts)

theorem caches_setCache_ask (s : Session Program) (r : CacheRequests) :
    s.caches.set r.number ((s.cacheAt r.number).ask r.texts) = s.cachesAfter r := by
  rw [cachesAfter, @List.modify_eq_set _ ⟨.empty⟩, cacheAt,
    List.getD_eq_getElem?_getD]
  rfl

@[simp] theorem cachesAfter_none (s : Session Program) :
    s.cachesAfter .none = s.caches :=
  List.modify_id 0 s.caches

@[simp] theorem eventsOf_none (s : Session Program) : s.eventsOf .none = [] :=
  MatcherCache.insertionEvents_self _

theorem isInsertion_eventsOf (s : Session Program) (r : CacheRequests) :
    ∀ e ∈ s.eventsOf r, e.isInsertion = true :=
  MatcherCache.isInsertion_of_mem

theorem sound_cachesAfter {s : Session Program} (hSound : s.Sound) (r : CacheRequests) :
    ∀ c ∈ s.cachesAfter r, c.Sound := by
  intro c hMem
  rw [← caches_setCache_ask] at hMem
  rcases List.mem_or_eq_of_mem_set hMem with hOld | rfl
  · exact hSound c hOld
  · exact MatcherCache.sound_ask (sound_cacheAt hSound r.number) r.texts

/-- The session after some requests and nothing else. -/
def ask (s : Session Program) (r : CacheRequests) : Session Program :=
  { s with
    caches := s.cachesAfter r
    journal := s.journal.logAll r.path (s.eventsOf r) }

@[simp] theorem ask_none (s : Session Program) : s.ask .none = s := by
  simp only [ask, cachesAfter_none, eventsOf_none, Journal.logAll_nil]

theorem cacheAt_ask {s : Session Program} {r : CacheRequests}
    (hRange : r.number < s.caches.length) :
    (s.ask r).cacheAt r.number = (s.cacheAt r.number).ask r.texts := by
  simp only [cacheAt, ask, cachesAfter, List.getD_eq_getElem?_getD,
    List.getElem?_modify_eq, List.getElem?_eq_getElem hRange]
  rfl

/-- Texts that are asked for one after the other. -/
theorem ask_ask {s : Session Program} {number : Nat} (hRange : number < s.caches.length)
    (first second : List Text) (path : Option String) :
    (s.ask ⟨number, first, path⟩).ask ⟨number, second, path⟩ =
      s.ask ⟨number, first ++ second, path⟩ := by
  have hCache : (s.ask ⟨number, first, path⟩).cacheAt number =
      (s.cacheAt number).ask first := cacheAt_ask hRange
  have hCaches :
      (s.ask ⟨number, first, path⟩).cachesAfter ⟨number, second, path⟩ =
        s.cachesAfter ⟨number, first ++ second, path⟩ := by
    simp only [ask, cachesAfter, List.modify_modify_eq, MatcherCache.ask_append]
    rfl
  have hEvents : s.eventsOf ⟨number, first ++ second, path⟩ =
      s.eventsOf ⟨number, first, path⟩ ++
        (s.ask ⟨number, first, path⟩).eventsOf ⟨number, second, path⟩ := by
    simp only [eventsOf, hCache, ← MatcherCache.ask_append]
    exact MatcherCache.insertionEvents_ask_append _ first second
  have hJournal : (s.ask ⟨number, first, path⟩).journal.logAll path
      ((s.ask ⟨number, first, path⟩).eventsOf ⟨number, second, path⟩) =
        s.journal.logAll path (s.eventsOf ⟨number, first ++ second, path⟩) := by
    rw [hEvents, Journal.logAll_append]
    rfl
  rw [ask, hCaches, hJournal]
  rfl

/-! ## Sessions that are alike -/

/-- The second session is the first one but for what its caches hold and have logged. -/
structure Alike (s t : Session Program) : Prop where
  journal : s.journal.Alike t.journal
  length_eq : t.caches.length = s.caches.length
  sound_left : s.Sound
  sound_right : t.Sound
  cacheNames_eq : t.cacheNames = s.cacheNames
  engines_eq : t.engines = s.engines
  engineNames_eq : t.engineNames = s.engineNames
  templates_eq : t.templates = s.templates

theorem Alike.refl {s : Session Program} (hSound : s.Sound) : s.Alike s :=
  ⟨.refl _, rfl, hSound, hSound, rfl, rfl, rfl, rfl⟩

theorem Alike.cacheNumber {s t : Session Program} (hAlike : s.Alike t) :
    t.cacheNumber = s.cacheNumber := by
  funext name
  unfold Session.cacheNumber
  rw [hAlike.cacheNames_eq]

theorem Alike.engine? {s t : Session Program} (hAlike : s.Alike t) :
    t.engine? = s.engine? := by
  funext name
  unfold Session.engine?
  rw [hAlike.engineNames_eq, hAlike.engines_eq]

theorem Alike.chosen? {s t : Session Program} (hAlike : s.Alike t) :
    t.chosen? = s.chosen? := by
  funext choice
  cases choice with
  | named name => simp only [Session.chosen?, hAlike.engine?]
  | fresh engine => rfl

/-- An operation with some requests to a cache that does not show what the
caches hold. -/
structure Transparent (op : Session Program → α × Session Program)
    (r : CacheRequests) :
    Prop where
  fst_eq : ∀ {s t}, s.Alike t → (op t).1 = (op s).1
  alike : ∀ {s t}, s.Alike t → (op s).2.Alike (op t).2
  /-- The requests are all that happens to the caches. -/
  caches_eq : ∀ {s}, s.Sound → (op s).2.caches = s.cachesAfter r
  cacheNames_eq : ∀ {s}, s.Sound → (op s).2.cacheNames = s.cacheNames
  /-- Their events are those of the requests. -/
  insertions_eq : ∀ {s}, s.Sound →
    (op s).2.journal.insertions = s.journal.insertions ++
    (s.eventsOf r).map (Event.inScope (r.path.or s.journal.scope))

section Transparent

variable {op : Session Program → α × Session Program} {r : CacheRequests}

theorem Transparent.sound (hOp : Transparent op r) {s : Session Program}
    (hSound : s.Sound) :
    (op s).2.Sound :=
  (hOp.alike (.refl hSound)).sound_left

/-- Steady work behind some requests. -/
theorem transparent_of_steady {work : Journal → α × Journal} (hWork : Steady work)
    (hOp : ∀ s, s.Sound → op s =
      let found := work (s.ask r).journal
      (found.1, { s.ask r with journal := found.2 })) :
    Transparent op r where
  fst_eq {s t} hAlike := by
    rw [hOp t hAlike.sound_right, hOp s hAlike.sound_left]
    exact hWork.fst_eq (hAlike.journal.logAll r.path (s.isInsertion_eventsOf r)
      (t.isInsertion_eventsOf r))
  alike {s t} hAlike := by
    have hLength : (t.cachesAfter r).length = (s.cachesAfter r).length := by
      rw [cachesAfter, cachesAfter, List.length_modify, List.length_modify,
        hAlike.length_eq]
    have hJournal :=
      hWork.alike (hAlike.journal.logAll r.path (s.isInsertion_eventsOf r)
      (t.isInsertion_eventsOf r))
    rw [hOp t hAlike.sound_right, hOp s hAlike.sound_left]
    exact ⟨hJournal, hLength, sound_cachesAfter hAlike.sound_left r,
      sound_cachesAfter hAlike.sound_right r, hAlike.cacheNames_eq, hAlike.engines_eq,
      hAlike.engineNames_eq, hAlike.templates_eq⟩
  caches_eq {s} hSound := by
    rw [hOp s hSound]
    rfl
  cacheNames_eq {s} hSound := by
    rw [hOp s hSound]
    rfl
  insertions_eq {s} hSound := by
    rw [hOp s hSound]
    exact (hWork.insertions_eq _).trans
      (Journal.insertions_logAll (s.isInsertion_eventsOf r) _ _)

/-- An operation that goes on with the answer of another one, without asking a
cache again. -/
theorem Transparent.bind {next : α → Session Program → β × Session Program}
    (hOp : Transparent op r) (hNext : ∀ a, Transparent (next a) .none) :
    Transparent (fun s => next (op s).1 (op s).2) r where
  fst_eq hAlike := by
    rw [hOp.fst_eq hAlike]
    exact (hNext _).fst_eq (hOp.alike hAlike)
  alike hAlike := by
    rw [hOp.fst_eq hAlike]
    exact (hNext _).alike (hOp.alike hAlike)
  caches_eq hSound := by
    rw [(hNext _).caches_eq (hOp.sound hSound), cachesAfter_none, hOp.caches_eq hSound]
  cacheNames_eq hSound := by
    rw [(hNext _).cacheNames_eq (hOp.sound hSound), hOp.cacheNames_eq hSound]
  insertions_eq hSound := by
    rw [(hNext _).insertions_eq (hOp.sound hSound), eventsOf_none, List.map_nil,
      List.append_nil, hOp.insertions_eq hSound]

/-- On sessions that are like this one, the operation is a transparent one. -/
def TransparentAt (s : Session Program) (op : Session Program → α × Session Program)
    (r : CacheRequests) : Prop :=
  ∃ op', Transparent op' r ∧ ∀ t, s.Alike t → op t = op' t

/-- An operation may look at what sessions that are alike have in common. -/
theorem Transparent.of_alike
    (hOp : ∀ s : Session Program, s.Sound → s.TransparentAt op r) :
    Transparent op r where
  fst_eq {s t} hAlike := by
    obtain ⟨op', hOp', hSame⟩ := hOp s hAlike.sound_left
    rw [hSame t hAlike, hSame s (.refl hAlike.sound_left)]
    exact hOp'.fst_eq hAlike
  alike {s t} hAlike := by
    obtain ⟨op', hOp', hSame⟩ := hOp s hAlike.sound_left
    rw [hSame t hAlike, hSame s (.refl hAlike.sound_left)]
    exact hOp'.alike hAlike
  caches_eq {s} hSound := by
    obtain ⟨op', hOp', hSame⟩ := hOp s hSound
    rw [hSame s (.refl hSound), hOp'.caches_eq hSound]
  cacheNames_eq {s} hSound := by
    obtain ⟨op', hOp', hSame⟩ := hOp s hSound
    rw [hSame s (.refl hSound), hOp'.cacheNames_eq hSound]
  insertions_eq {s} hSound := by
    obtain ⟨op', hOp', hSame⟩ := hOp s hSound
    rw [hSame s (.refl hSound), hOp'.insertions_eq hSound]

end Transparent

/-! ## Operations without requests -/

/-- Steady work on the journal. -/
theorem transparent_journal {work : Journal → α × Journal} (hWork : Steady work) :
    Transparent (fun s : Session Program =>
      ((work s.journal).1, { s with journal := (work s.journal).2 })) .none :=
  transparent_of_steady hWork fun s _ => by rw [ask_none]

theorem transparent_answer (a : α) :
    Transparent (fun s : Session Program => (a, s)) .none :=
  transparent_journal (steady_answer a)

theorem Transparent.map {op : Session Program → α × Session Program}
    {r : CacheRequests} (hOp : Transparent op r) (f : α → β) :
    Transparent (fun s => (f (op s).1, (op s).2)) r :=
  hOp.bind fun a => transparent_answer (f a)

/-- A change to engines and templates. -/
theorem transparent_change {f : Session Program → Session Program} (a : α)
    (hKeeps : ∀ s, (f s).journal = s.journal ∧ (f s).caches = s.caches ∧
      (f s).cacheNames = s.cacheNames)
    (hSame : ∀ {s t}, s.Alike t → (f t).engines = (f s).engines ∧
      (f t).engineNames = (f s).engineNames ∧ (f t).templates = (f s).templates) :
    Transparent (fun s => (a, f s)) .none where
  fst_eq _ := rfl
  alike {s t} hAlike := by
    obtain ⟨hJournal, hCaches, hNames⟩ := hKeeps s
    obtain ⟨hJournal', hCaches', hNames'⟩ := hKeeps t
    obtain ⟨hEngines, hEngineNames, hTemplates⟩ := hSame hAlike
    refine ⟨?_, ?_, ?_, ?_, ?_, hEngines, hEngineNames, hTemplates⟩
    · rw [hJournal, hJournal']
      exact hAlike.journal
    · rw [hCaches, hCaches', hAlike.length_eq]
    · unfold Sound
      rw [hCaches]
      exact hAlike.sound_left
    · unfold Sound
      rw [hCaches']
      exact hAlike.sound_right
    · rw [hNames, hNames', hAlike.cacheNames_eq]
  caches_eq {s} _ := (hKeeps s).2.1.trans s.cachesAfter_none.symm
  cacheNames_eq {s} _ := (hKeeps s).2.2
  insertions_eq {s} _ := by
    rw [(hKeeps s).1, eventsOf_none]
    exact (List.append_nil _).symm

theorem transparent_bind (target : String) (compiled : Compiled Program) (a : α) :
    Transparent (fun s : Session Program => (a, s.bind target compiled)) .none :=
  transparent_change a (fun _ => ⟨rfl, rfl, rfl⟩) fun hAlike =>
    ⟨hAlike.engines_eq, hAlike.engineNames_eq,
      congrArg (putEntry target compiled) hAlike.templates_eq⟩

theorem transparent_setEngine (number : Nat) (state : EngineState Program) (a : α) :
    Transparent (fun s : Session Program => (a, s.setEngine number state)) .none :=
  transparent_change a (fun _ => ⟨rfl, rfl, rfl⟩) fun hAlike =>
    ⟨congrArg (·.set number state) hAlike.engines_eq, hAlike.engineNames_eq,
      hAlike.templates_eq⟩

theorem transparent_addEngine (name : String) (e : Engine Program) (a : α) :
    Transparent (fun s : Session Program => (a, s.addEngine name e)) .none :=
  transparent_change a (fun _ => ⟨rfl, rfl, rfl⟩) fun {s t} hAlike => by
    simp only [addEngine, hAlike.engines_eq, hAlike.engineNames_eq, hAlike.templates_eq]
    exact ⟨trivial, trivial, trivial⟩

theorem transparent_log (e : Event) (hOther : e.isInsertion = false) (a : α) :
    Transparent (fun s : Session Program => (a, s.log e)) .none :=
  transparent_journal (steady_log hOther a)

theorem transparent_keep (target : String) {op : Session Program →
    Except Failure (Compiled Program) × Session Program} {r : CacheRequests}
    (hOp : Transparent op r) : Transparent (fun s => keep target (op s)) r := by
  have hNext : ∀ answer : Except Failure (Compiled Program),
      Transparent (fun s : Session Program => keep target (answer, s)) .none := by
    intro answer
    cases answer with
    | error e => exact transparent_answer _
    | ok compiled => exact transparent_bind target compiled _
  exact hOp.bind hNext

theorem transparent_compileNative (e : NumberedEngine Program) (path : Option String)
    (source : Value) :
    Transparent (fun s : Session Program => s.compileNative e path source) .none :=
  transparent_journal (steady_compileNative e source path)

/-! ## Operations with requests -/

theorem matcher_eq {s : Session Program} (hSound : s.Sound) (number : Nat)
    (source : Text) :
    s.matcher number source =
      (matcherOf source, s.ask ⟨number, [source], none⟩) := by
  unfold matcher
  rw [MatcherCache.get_eq (sound_cacheAt hSound number), ask, ← caches_setCache_ask]
  rfl

theorem sound_ask {s : Session Program} (hSound : s.Sound) (r : CacheRequests) :
    (s.ask r).Sound :=
  sound_cachesAfter hSound r

theorem transparent_matcher (number : Nat) (source : Text) :
    Transparent (fun s : Session Program => s.matcher number source)
      ⟨number, [source], none⟩ :=
  transparent_of_steady (steady_answer (matcherOf source)) fun _ hSound =>
    matcher_eq hSound number source

/-- Whether two texts have the same matcher, found without a cache. -/
def sameMatcher (first second : Text) : Except Failure Bool := do
  let _ ← matcherOf first
  let _ ← matcherOf second
  return first == second

/-- The second text is asked for only if the first one is an expression. -/
theorem cacheSame_eq {s : Session Program} (hSound : s.Sound) {number : Nat}
    (hRange : number < s.caches.length) (first second : Text) :
    s.cacheSame number first second =
      (sameMatcher first second,
        s.ask ⟨number, first :: if isExpression first then [second] else [],
          none⟩) := by
  unfold cacheSame sameMatcher isExpression
  rw [matcher_eq hSound]
  cases hFirst : matcherOf first with
  | error e => rfl
  | ok matcher =>
      have hBoth := ask_ask hRange [first] [second] none
      simp only [matcher_eq (sound_ask hSound _), hBoth]
      cases matcherOf second <;> rfl

theorem transparent_compile (e : NumberedEngine Program) (markers : MarkerSet)
    (cache : Nat) (guard : Guard) (path : Option String) (source : Value) :
    Transparent (fun s : Session Program => s.compile e markers cache guard path source)
      ⟨cache, markers.asks, path⟩ :=
  transparent_of_steady (steady_compileAnew e markers guard path source)
    fun s hSound => by
    unfold Session.compile
    rw [compile_eq (sound_cacheAt hSound cache), ask, ← caches_setCache_ask]
    rfl

/-! ## Rendering -/

theorem transparent_ensureCompiled (name : String) (a : α) :
    Transparent (fun s : Session Program => (a, s.ensureCompiled name)) .none := by
  refine .of_alike fun s _ => ?_
  cases hFound : s.templates.lookup name with
  | none =>
      refine ⟨fun s => (a, s), transparent_answer a, fun t hAlike => ?_⟩
      simp only [ensureCompiled, hAlike.templates_eq, hFound]
  | some compiled =>
      cases compiled with
      | native engine program =>
          refine ⟨fun s => (a, s), transparent_answer a, fun t hAlike => ?_⟩
          simp only [ensureCompiled, hAlike.templates_eq, hFound]
      | template made =>
          have hNext : ∀ answer :
              Except Failure Program, Transparent (fun s : Session Program =>
              (a, match answer with
                | .ok program => s.bind name (.template (made.withProgram program))
                | .error _ => s)) .none := by
            intro answer
            cases answer with
            | error e => exact transparent_answer a
            | ok program => exact transparent_bind name _ a
          refine ⟨_, (transparent_journal made.steady_programOr).bind hNext,
            fun t hAlike => ?_⟩
          simp only [ensureCompiled, hAlike.templates_eq, hFound]
          rcases made.programOr t.journal with ⟨answer, j⟩
          cases answer <;> rfl

theorem transparent_ensureInserted (names : InclusionNames) (inserted : List String)
    (a : α) :
    Transparent (fun s : Session Program => (a, s.ensureInserted names inserted))
      .none := by
  unfold ensureInserted
  generalize inserted.filterMap (fun name => names.lookup name) = found
  induction found with
  | nil => exact transparent_answer a
  | cons name found ih => exact (transparent_ensureCompiled name ()).bind fun _ => ih

theorem transparent_render (target : String) (compiled : Compiled Program)
    (r : RenderRequest) :
    Transparent (fun s : Session Program => s.render target compiled r) .none := by
  refine .of_alike fun s _ => ?_
  cases compiled with
  | native engine program =>
      refine ⟨_, (transparent_bind target (.native engine
        (engine.render program (s.callOf r)).program) ()).bind fun _ =>
          transparent_ensureInserted (r.partials.getD [])
            (engine.render program (s.callOf r)).inserted
            (plainText (engine.render program (s.callOf r)).answer),
            fun t hAlike => ?_⟩
      simp only [render, callOf_of_templates hAlike.templates_eq]
  | template made =>
      refine ⟨_, (transparent_journal made.steady_programOr).bind fun answer =>
        (transparent_bind target (.template (made.rendered (s.callOf r) answer).2.2)
          ()).bind fun _ => transparent_ensureInserted (r.partials.getD [])
            (made.rendered (s.callOf r) answer).2.1
            (made.rendered (s.callOf r) answer).1,
        fun t hAlike => ?_⟩
      simp only [render, callOf_of_templates hAlike.templates_eq, Template.render_eq]

end Session

end Retag

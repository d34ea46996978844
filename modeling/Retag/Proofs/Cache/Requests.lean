import Mathlib.Data.List.Induction
import Retag.Proofs.Cache.Soundness
import Retag.Proofs.Log.Likeness

/-!
# What requests make of a cache

A cache is known by the texts it was asked for.  Its keys are those among
them that are expressions, each once and in the order of the first request;
a request that adds a key logs it with the number of keys from then on, and
every other request leaves cache and journal alone.

A marker set asks for one or two texts.  With a sound cache the answer is
that of compiling anew, so what follows it does not depend on the cache: the
work behind the requests is `templateWork`, which is steady.

## Main results

* `MatcherCache.get_eq`, `MatcherCache.matchers_eq`: requests.
* `MatcherCache.holds_asked`: the cache that some texts were asked of.
* `compileSegments_eq`, `compile_eq`: compiling with a cache.
-/

namespace Retag

open Log

/-- Whether a text is an expression. -/
def isExpression (source : Text) : Bool := (matcherOf source).isOk

/-- The keys of a cache that was asked for some texts since it was empty. -/
def keysOf (requests : List Text) : List Text :=
  (requests.filter isExpression).eraseDups

theorem keysOf_concat (requests : List Text) (source : Text) :
    keysOf (requests ++ [source]) =
      if isExpression source && !(keysOf requests).contains source
      then keysOf requests ++ [source] else keysOf requests := by
  unfold keysOf
  rw [List.filter_append, List.eraseDups_append]
  cases hExpression : isExpression source with
  | false => simp [hExpression]
  | true =>
      by_cases hMem : source ∈ requests
      · simp [hExpression, hMem, List.removeAll]
      · simp [hExpression, hMem, List.removeAll, List.eraseDups_cons]

namespace MatcherCache

/-! ## One request -/

/-- The cache after some texts were asked of it, one after the other. -/
def ask (c : MatcherCache) (requests : List Text) : MatcherCache :=
  requests.foldl (fun c source => (c.get source .empty).2.1) c

/-- The keys that a cache has beyond those it had before, each with the number
of keys up to it. -/
def insertions (before after : MatcherCache) : List (Text × Nat) :=
  (after.sources.zipIdx 1).drop before.size

/-- What is logged when a cache gets new keys. -/
def insertionEvents (before after : MatcherCache) : List Event :=
  (before.insertions after).map fun added => matcherEvent added.1 added.2

theorem isInsertion_of_mem {before after : MatcherCache} :
    ∀ e ∈ before.insertionEvents after, e.isInsertion = true := by
  intro e hMem
  obtain ⟨added, -, rfl⟩ := List.mem_map.mp hMem
  rfl

@[simp] theorem ask_nil (c : MatcherCache) : c.ask [] = c := rfl

theorem ask_append (c : MatcherCache) (first second : List Text) :
    c.ask (first ++ second) = (c.ask first).ask second :=
  List.foldl_append

/-- New keys stand behind the old ones. -/
theorem insertions_of_append {c d : MatcherCache} {more : List Text}
    (hMore : d.sources = c.sources ++ more) :
    c.insertions d = more.zipIdx (1 + c.size) := by
  have hLength : (c.sources.zipIdx 1).length = c.size := by
    rw [List.length_zipIdx, length_sources]
  rw [insertions, hMore, List.zipIdx_append, List.drop_left' hLength, length_sources]

@[simp] theorem insertionEvents_self (c : MatcherCache) : c.insertionEvents c = [] := by
  rw [insertionEvents, insertions_of_append (List.append_nil _).symm]
  rfl

@[simp] theorem insertionEvents_empty (c : MatcherCache) :
    c.insertionEvents .empty = [] := by
  rw [insertionEvents, insertions, sources_empty, List.zipIdx_nil, List.drop_nil,
    List.map_nil]

theorem insertionEvents_insert (c : MatcherCache) (source : Text) (matcher : Regex) :
    c.insertionEvents (c.insert source matcher) =
      [matcherEvent source (c.insert source matcher).size] := by
  have hSize : (c.insert source matcher).size = 1 + c.size := by
    simp [size, insert, Nat.add_comm]
  rw [insertionEvents, insertions_of_append (c.sources_insert source matcher), hSize]
  rfl

theorem mem_sources_iff (c : MatcherCache) (source : Text) :
    source ∈ c.sources ↔ (c.find? source).isSome = true := by
  rw [find?, List.lookup_isSome_iff, sources, List.mem_map]
  constructor
  · rintro ⟨entry, hMem, rfl⟩
    exact ⟨entry, hMem, beq_self_eq_true _⟩
  · rintro ⟨entry, hMem, hSame⟩
    exact ⟨entry, hMem, (beq_iff_eq.mp hSame).symm⟩

/-- A request adds a key if there is something to add, and logs it. -/
theorem get_cases (c : MatcherCache) (source : Text) (j : Journal) :
    (∃ matcher, matcherOf source = .ok matcher ∧ source ∉ c.sources ∧
        c.get source j = (.ok matcher, c.insert source matcher,
          j.log (matcherEvent source (c.insert source matcher).size))) ∨
      ((isExpression source = false ∨ source ∈ c.sources) ∧
        ∃ answer, c.get source j = (answer, c, j)) := by
  have hMem := c.mem_sources_iff source
  unfold get isExpression
  cases hFind : c.find? source with
  | some matcher =>
      rw [hFind] at hMem
      exact .inr ⟨.inr (hMem.mpr rfl), _, rfl⟩
  | none =>
      rw [hFind] at hMem
      have hNew : source ∉ c.sources := fun hOld => Bool.false_ne_true (hMem.mp hOld)
      cases hCompile : matcherOf source with
      | error e => exact .inr ⟨.inl rfl, _, rfl⟩
      | ok matcher => exact .inl ⟨matcher, rfl, hNew, rfl⟩

theorem ask_singleton (c : MatcherCache) (source : Text) (j : Journal) :
    (c.get source j).2.1 = c.ask [source] := by
  show _ = (c.get source .empty).2.1
  unfold get
  cases c.find? source with
  | some matcher => rfl
  | none => cases matcherOf source <;> rfl

theorem journal_get (c : MatcherCache) (source : Text) (j : Journal) :
    (c.get source j).2.2 = j.logAll none (c.insertionEvents (c.ask [source])) := by
  rw [← c.ask_singleton source j]
  rcases c.get_cases source j with ⟨matcher, -, -, hGet⟩ | ⟨-, answer, hGet⟩
  · rw [hGet, insertionEvents_insert, Journal.logAll_singleton]
  · rw [hGet, insertionEvents_self, Journal.logAll_nil]

/-- A request to a sound cache. -/
theorem get_eq {c : MatcherCache} (hSound : c.Sound) (source : Text) (j : Journal) :
    c.get source j =
      (matcherOf source, c.ask [source],
        j.logAll none (c.insertionEvents (c.ask [source]))) := by
  rw [← journal_get, ← c.ask_singleton source j,
    ← (get_of_sound hSound source j).1]

/-! ## Requests in order -/

theorem sources_ask_singleton (c : MatcherCache) (source : Text) :
    (c.ask [source]).sources =
      if isExpression source && !c.sources.contains source
      then c.sources ++ [source] else c.sources := by
  rw [← c.ask_singleton source .empty]
  rcases c.get_cases source .empty with
    ⟨matcher, hCompile, hNew, hGet⟩ | ⟨hOld, answer, hGet⟩
  · have hExpression : isExpression source = true := by
      rw [isExpression, hCompile]; rfl
    simp [hGet, hExpression, hNew]
  · rw [hGet]
    rcases hOld with hNone | hMem
    · simp [hNone]
    · simp [hMem]

theorem prefix_ask (c : MatcherCache) (requests : List Text) :
    c.sources <+: (c.ask requests).sources := by
  induction requests generalizing c with
  | nil => exact List.prefix_rfl
  | cons source requests ih =>
      have hFirst : c.sources <+: (c.ask [source]).sources := by
        rw [sources_ask_singleton]
        split
        · exact List.prefix_append _ _
        · exact List.prefix_rfl
      exact hFirst.trans (ih (c.ask [source]))

theorem sound_ask {c : MatcherCache} (hSound : c.Sound) (requests : List Text) :
    (c.ask requests).Sound := by
  induction requests generalizing c with
  | nil => exact hSound
  | cons source requests ih => exact ih (get_of_sound hSound source .empty).2

/-- New keys of two rounds of requests. -/
theorem insertions_trans {c d e : MatcherCache} (hFirst : c.sources <+: d.sources)
    (hSecond : d.sources <+: e.sources) :
    c.insertions e = c.insertions d ++ d.insertions e := by
  obtain ⟨first, hFirst⟩ := hFirst
  obtain ⟨second, hSecond⟩ := hSecond
  have hBoth : e.sources = c.sources ++ (first ++ second) := by
    rw [← hSecond, ← hFirst, List.append_assoc]
  have hSize : 1 + d.size = 1 + c.size + first.length := by
    rw [← d.length_sources, ← hFirst, List.length_append, length_sources,
      Nat.add_assoc]
  rw [insertions_of_append hBoth, insertions_of_append hFirst.symm,
    insertions_of_append hSecond.symm, List.zipIdx_append, hSize]

theorem insertionEvents_ask_append (c : MatcherCache) (first second : List Text) :
    c.insertionEvents (c.ask (first ++ second)) =
      c.insertionEvents (c.ask first) ++
        (c.ask first).insertionEvents (c.ask (first ++ second)) := by
  rw [ask_append]
  unfold insertionEvents
  rw [insertions_trans (c.prefix_ask first) ((c.ask first).prefix_ask second),
    List.map_append]

/-! ## The cache that some texts were asked of -/

/-- A cache that was asked for some texts since it was empty. -/
structure Holds (c : MatcherCache) (requests : List Text) : Prop where
  /-- Its keys are the expressions among them. -/
  sources_eq : c.sources = keysOf requests
  nodup : c.sources.Nodup
  /-- A key is kept with the matcher compiled from it. -/
  compiled : ∀ entry ∈ c.entries, matcherOf entry.1 = .ok entry.2
  /-- Every request is answered as compiling answers it. -/
  get_fst : ∀ source j, (c.get source j).1 = matcherOf source
  /-- What is no expression is not kept, and nothing is logged. -/
  get_error : ∀ source j e, matcherOf source = .error e →
    c.get source j = (.error e, c, j)

theorem asked_append (first second : List Text) :
    asked (first ++ second) = (asked first).ask second :=
  ask_append .empty first second

theorem sources_asked (requests : List Text) :
    (asked requests).sources = keysOf requests := by
  induction requests using List.reverseRecOn with
  | nil => rfl
  | append_singleton requests source ih =>
      rw [asked_append, sources_ask_singleton, keysOf_concat, ih]

/-- Every key is there once, and what is kept under it was compiled from it. -/
theorem entries_asked (requests : List Text) :
    (asked requests).sources.Nodup ∧
      ∀ entry ∈ (asked requests).entries, matcherOf entry.1 = .ok entry.2 := by
  induction requests using List.reverseRecOn with
  | nil => exact ⟨List.nodup_nil, fun entry hMem => by cases hMem⟩
  | append_singleton requests source ih =>
      obtain ⟨hNodup, hCompiled⟩ := ih
      rw [asked_append, ← ask_singleton _ source .empty]
      rcases (asked requests).get_cases source .empty with
        ⟨matcher, hMatcher, hNew, hGet⟩ | ⟨-, answer, hGet⟩
      · rw [hGet]
        refine ⟨?_, fun entry hMem => ?_⟩
        · rw [sources_insert]
          refine List.nodup_append.mpr ⟨hNodup, by simp,
            fun key hKey other hOther hSame => hNew ?_⟩
          rw [← List.mem_singleton.mp hOther, ← hSame]
          exact hKey
        · rcases List.mem_append.mp hMem with hOld | hLast
          · exact hCompiled entry hOld
          · rw [List.mem_singleton.mp hLast]
            exact hMatcher
      · rw [hGet]
        exact ⟨hNodup, hCompiled⟩

theorem holds_asked (requests : List Text) : (asked requests).Holds requests where
  sources_eq := sources_asked requests
  nodup := (entries_asked requests).1
  compiled := (entries_asked requests).2
  get_fst source j := (get_of_sound (sound_asked requests) source j).1
  get_error source j e hError := by
    have hFst := (get_of_sound (sound_asked requests) source j).1
    rcases (asked requests).get_cases source j with
      ⟨matcher, hMatcher, -⟩ | ⟨-, answer, hGet⟩
    · rw [hError] at hMatcher
      cases hMatcher
    · rw [hGet] at hFst ⊢
      rw [show answer = .error e from hFst.trans hError]

end MatcherCache

/-! ## Marker sets -/

/-- The texts that a marker set asks for.  The second pair is asked for only
if the first one is an expression. -/
def MarkerSet.requests (markers : MarkerSet) : List Text :=
  markers.escaped.source ::
    if isExpression markers.escaped.source then
      (markers.safe.map MarkerPair.source).toList
    else []

namespace MatcherCache

/-- The requests of a marker set to a sound cache. -/
theorem matchers_eq {c : MatcherCache} (hSound : c.Sound) (markers : MarkerSet)
    (j : Journal) :
    c.matchers markers j =
      (markers.compileMatchers, c.ask markers.requests,
        j.logAll none (c.insertionEvents (c.ask markers.requests))) := by
  have hFirst := get_eq hSound markers.escaped.source j
  unfold matchers MarkerSet.compileMatchers MarkerSet.requests isExpression
  rw [hFirst]
  cases hEscaped : matcherOf markers.escaped.source with
  | error e => rfl
  | ok escaped =>
      cases hSafe : markers.safe with
      | none => rfl
      | some pair =>
          have hSecond := get_eq (sound_ask hSound [markers.escaped.source]) pair.source
            (j.logAll none (c.insertionEvents (c.ask [markers.escaped.source])))
          have hJournal := congrArg (j.logAll none)
            (c.insertionEvents_ask_append [markers.escaped.source] [pair.source])
          rw [Journal.logAll_append, ask_append] at hJournal
          simp only [hSecond, ← hJournal]
          cases matcherOf pair.source with
          | error e => rfl
          | ok safe => rfl

end MatcherCache

/-! ## Compiling with a cache -/

variable {Program : Type}

/-- The work behind the requests to a cache. -/
def templateWork (e : NumberedEngine Program) (markers : MarkerSet) (guard : Guard)
    (path : Option String) (source : Value) (j : Journal) :
    Except Failure (Template Program) × Journal :=
  match markers.compileMatchers with
  | .error fault => (.error fault, j)
  | .ok matchers =>
    match matchers.segmentsOf source with
    | .error fault => (.error fault, j)
    | .ok segments => templateOf e markers guard path segments j

theorem steady_templateWork (e : NumberedEngine Program) (markers : MarkerSet)
    (guard : Guard) (path : Option String) (source : Value) :
    Steady (templateWork e markers guard path source) := by
  unfold templateWork
  cases markers.compileMatchers with
  | error fault => exact steady_answer _
  | ok matchers =>
      cases hSegments : matchers.segmentsOf source with
      | error fault =>
          simp only [hSegments]
          exact steady_answer _
      | ok segments =>
          simp only [hSegments]
          exact steady_templateOf ..

theorem compileSegments_eq {c : MatcherCache} (hSound : c.Sound)
    (e : NumberedEngine Program) (markers : MarkerSet) (guard : Guard)
    (path : Option String) (source : Value) (j : Journal) :
    compileSegments e markers guard path source c j =
      let found := templateWork e markers guard path source
        (j.logAll none (c.insertionEvents (c.ask markers.requests)))
      ((found.1, c.ask markers.requests), found.2) := by
  unfold compileSegments templateWork
  rw [MatcherCache.matchers_eq hSound]
  cases markers.compileMatchers with
  | error fault => rfl
  | ok matchers =>
      cases hSegments : matchers.segmentsOf source with
      | error fault => simp only [hSegments]
      | ok segments => simp only [hSegments]

/-- Compiling without a cache. -/
def compileAnew (e : NumberedEngine Program) (markers : MarkerSet) (guard : Guard)
    (path : Option String) (source : Value) (j : Journal) :
    Except Failure (Compiled Program) × Journal :=
  if markers.isNative then compileNative e source path j
  else
    let found := j.inScope path (templateWork e markers guard path source)
    (found.1.map .template, found.2)

theorem steady_compileAnew (e : NumberedEngine Program) (markers : MarkerSet)
    (guard : Guard) (path : Option String) (source : Value) :
    Steady (compileAnew e markers guard path source) := by
  unfold compileAnew
  cases markers.isNative with
  | true => exact steady_compileNative e source path
  | false =>
      exact ((steady_templateWork e markers guard path source).inScope path).map
        fun answer => answer.map Compiled.template

/-- The texts that compiling with a marker set asks a cache for: none if the
markers are the engine's own. -/
def MarkerSet.asks (markers : MarkerSet) : List Text :=
  if markers.isNative then [] else markers.requests

/-- Compiling with a sound cache is to ask it first, and then to compile
without it. -/
theorem compile_eq {c : MatcherCache} (hSound : c.Sound) (e : NumberedEngine Program)
    (markers : MarkerSet) (guard : Guard) (path : Option String) (source : Value)
    (j : Journal) :
    compile e markers guard path source c j =
      let found := compileAnew e markers guard path source
        (j.logAll path (c.insertionEvents (c.ask markers.asks)))
      ((found.1, c.ask markers.asks), found.2) := by
  unfold compile compileAnew MarkerSet.asks
  cases markers.isNative with
  | true => simp
  | false =>
      have hWork : compileSegments e markers guard path source c = fun k =>
          (fun found : Except Failure (Template Program) × Journal =>
            ((found.1, c.ask markers.requests), found.2))
              (templateWork e markers guard path source
              (k.logAll none (c.insertionEvents (c.ask markers.requests)))) :=
        funext fun k => compileSegments_eq hSound e markers guard path source k
      have hScope :=
        Journal.inScope_logAll path (templateWork e markers guard path source)
        (c.insertionEvents (c.ask markers.requests)) j
      simp only [Bool.false_eq_true, if_false, ← hScope]
      rw [hWork]
      cases path <;> rfl

end Retag

import Retag.Cache

/-!
# Caches answer what compiling answers

A cache that keeps under every text the matcher compiled from it is sound.
The empty cache is sound and being asked keeps a cache sound, so whatever a
cache was asked before, its answers are those of compiling anew.

## Main results

* `MatcherCache.get_of_sound`: one request.
* `MatcherCache.matchers_of_sound`: the requests for a marker set.
* `MatcherCache.sound_asked`: the caches that can be reached are sound.
-/

namespace Retag

open Log

/-- The matchers of a marker set, compiled anew. -/
def MarkerSet.compileMatchers (markers : MarkerSet) : Except Failure Matchers := do
  let escaped ← matcherOf markers.escaped.source
  match markers.safe with
  | none => return ⟨escaped, none⟩
  | some pair => return ⟨escaped, some (← matcherOf pair.source)⟩

namespace MatcherCache

/-- A cache that keeps under every text the matcher compiled from it. -/
def Sound (c : MatcherCache) : Prop :=
  ∀ source matcher, c.find? source = some matcher → matcherOf source = .ok matcher

/-- The cache that some texts have been asked of, one after the other, since
it was empty. -/
def asked (requests : List Text) : MatcherCache :=
  requests.foldl (fun c source => (c.get source .empty).2.1) .empty

theorem sound_empty : MatcherCache.empty.Sound := by
  intro source matcher hFind
  cases hFind

theorem sound_insert {c : MatcherCache} (hSound : c.Sound) {source : Text}
    {matcher : Regex}
    (hCompile : matcherOf source = .ok matcher) : (c.insert source matcher).Sound := by
  intro other found hFind
  simp only [find?, insert, List.lookup_append, Option.or_eq_some_iff] at hFind
  rcases hFind with hFind | ⟨-, hFind⟩
  · exact hSound other found hFind
  · simp only [List.lookup_cons, List.lookup_nil] at hFind
    split at hFind
    · rename_i hSame
      rw [beq_iff_eq.mp hSame, hCompile, Option.some.inj hFind]
    · cases hFind

/-- A sound cache answers what compiling answers, and stays sound. -/
theorem get_of_sound {c : MatcherCache} (hSound : c.Sound) (source : Text)
    (j : Journal) :
    (c.get source j).1 = matcherOf source ∧ (c.get source j).2.1.Sound := by
  unfold get
  cases hFind : c.find? source with
  | some matcher => exact ⟨(hSound source matcher hFind).symm, hSound⟩
  | none =>
      cases hCompile : matcherOf source with
      | error e => exact ⟨rfl, hSound⟩
      | ok matcher => exact ⟨rfl, sound_insert hSound hCompile⟩

/-- Every cache that was only asked for matchers is sound. -/
theorem sound_asked (requests : List Text) : (asked requests).Sound := by
  have hKeeps : ∀ c : MatcherCache, c.Sound →
      (requests.foldl (fun c source => (c.get source .empty).2.1) c).Sound := by
    induction requests with
    | nil => exact fun _ hSound => hSound
    | cons source requests ih =>
        exact fun c hSound => ih _ (get_of_sound hSound source .empty).2
  exact hKeeps .empty sound_empty

/-- The matchers of a marker set from a sound cache are those compiled
anew, and the cache stays sound. -/
theorem matchers_of_sound {c : MatcherCache} (hSound : c.Sound) (markers : MarkerSet)
    (j : Journal) :
    (c.matchers markers j).1 = markers.compileMatchers ∧
      (c.matchers markers j).2.1.Sound := by
  unfold matchers MarkerSet.compileMatchers
  obtain ⟨hAnswer, hAfter⟩ := get_of_sound hSound markers.escaped.source j
  rcases hGet : c.get markers.escaped.source j with ⟨answer, first, j₁⟩
  rw [hGet] at hAnswer hAfter
  simp only at hAnswer hAfter
  rw [← hAnswer]
  cases answer with
  | error e => exact ⟨rfl, hAfter⟩
  | ok escaped =>
      cases hSafe : markers.safe with
      | none => exact ⟨rfl, hAfter⟩
      | some pair =>
          obtain ⟨hAnswer, hLast⟩ := get_of_sound hAfter pair.source j₁
          rcases hGet : first.get pair.source j₁ with ⟨answer, second, j₂⟩
          rw [hGet] at hAnswer hLast
          simp only at hAnswer hLast
          simp only [hGet]
          rw [← hAnswer]
          cases answer with
          | error e => exact ⟨rfl, hLast⟩
          | ok safe => exact ⟨rfl, hLast⟩

end MatcherCache

end Retag

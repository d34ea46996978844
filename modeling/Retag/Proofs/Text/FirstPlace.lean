import Retag.Text.Basic

/-!
# The first place of a text

Searching a text from the left for the first place where something is found.
What may be found at a place is a function of the text from there on, so a
place is the text before it, and the search is a recursion on the text.

## Main results

* `firstPlace_eq_some`: something is found at the place of `firstPlace`, and
  nothing at any earlier place.
-/

namespace Retag

/-- What stands after a marker at the start of a text. -/
def afterMarker? (marker text : Text) : Option Text :=
  if marker.isPrefixOf text then some (text.drop marker.length) else none

theorem afterMarker?_append (marker rest : Text) :
    afterMarker? marker (marker ++ rest) = some rest := by
  simp [afterMarker?]

theorem afterMarker?_eq_some {marker text rest : Text} :
    afterMarker? marker text = some rest ↔ text = marker ++ rest := by
  constructor
  · intro hSome
    unfold afterMarker? at hSome
    split at hSome
    · rename_i hPrefix
      obtain ⟨tail, rfl⟩ := List.isPrefixOf_iff_prefix.mp hPrefix
      simpa using hSome
    · cases hSome
  · rintro rfl
    exact afterMarker?_append marker rest

/-- A marker does not stand where its first character does not. -/
theorem afterMarker?_of_head {marker text : Text} {x : Char}
    (hMarker : marker.head? = some x)
    (hText : text.head? ≠ some x) : afterMarker? marker text = none := by
  cases hAfter : afterMarker? marker text with
  | none => rfl
  | some rest =>
      rw [afterMarker?_eq_some.mp hAfter, List.head?_append, hMarker] at hText
      exact absurd rfl hText

/-- A place inside a text does not begin with a character that the text does
not have. -/
theorem head?_of_suffix {front tail rest : Text} {x : Char} (hNot : x ∉ front)
    (hTail : tail <:+ front) (hNe : tail ≠ []) : (tail ++ rest).head? ≠ some x := by
  obtain ⟨y, more, rfl⟩ := List.exists_cons_of_ne_nil hNe
  intro hHead
  obtain rfl : y = x := Option.some.inj hHead
  exact hNot (hTail.subset List.mem_cons_self)

/-- The first place of a text where something is found, as the text before
it and what is found. -/
def firstPlace {α : Type} (at? : Text → Option α) : Text → Option (Text × α)
  | [] => (at? []).map fun found => ([], found)
  | x :: rest =>
    match at? (x :: rest) with
    | some found => some ([], found)
    | none => (firstPlace at? rest).map fun place => (x :: place.1, place.2)

section FirstPlace

variable {α : Type} {at? : Text → Option α}

theorem firstPlace_of_some {text : Text} {found : α} (hFound : at? text = some found) :
    firstPlace at? text = some ([], found) := by
  cases text with
  | nil => simp [firstPlace, hFound]
  | cons x rest => simp [firstPlace, hFound]

theorem firstPlace_of_none {x : Char} {rest : Text} (hNone : at? (x :: rest) = none) :
    firstPlace at? (x :: rest) =
      (firstPlace at? rest).map fun place => (x :: place.1, place.2) := by
  simp [firstPlace, hNone]

/-- A text at none of whose places something is found is skipped. -/
theorem firstPlace_append {front rest : Text}
    (hNothing : ∀ tail, tail <:+ front → tail ≠ [] →
      at? (tail ++ rest) = none) :
    firstPlace at? (front ++ rest) =
      (firstPlace at? rest).map fun place => (front ++ place.1, place.2) := by
  induction front with
  | nil => exact Option.map_id'.symm
  | cons x front ih =>
      have hHere : at? (x :: (front ++ rest)) = none :=
        hNothing (x :: front) List.suffix_rfl (List.cons_ne_nil _ _)
      have hLater :=
        ih fun tail hTail => hNothing tail (hTail.trans (List.suffix_cons x front))
      rw [List.cons_append, firstPlace_of_none hHere, hLater, Option.map_map]
      rfl

/-- The place that is found is the first one: something is found there, and
nothing at any earlier place. -/
theorem firstPlace_eq_some {text skipped : Text} {found : α} :
    firstPlace at? text = some (skipped, found) ↔
      ∃ rest, text = skipped ++ rest ∧ at? rest = some found ∧
        ∀ i, i < skipped.length → at? (text.drop i) = none := by
  induction text generalizing skipped with
  | nil =>
      constructor
      · intro hPlace
        simp only [firstPlace, Option.map_eq_some_iff, Prod.mk.injEq] at hPlace
        obtain ⟨found', hFound, rfl, rfl⟩ := hPlace
        exact ⟨[], rfl, hFound, by simp⟩
      · rintro ⟨rest, hText, hFound, -⟩
        obtain ⟨rfl, rfl⟩ := List.append_eq_nil_iff.mp hText.symm
        exact firstPlace_of_some hFound
  | cons x rest ih =>
      cases hHere : at? (x :: rest) with
      | some here =>
          rw [firstPlace_of_some hHere]
          constructor
          · rintro hPlace
            obtain ⟨rfl, rfl⟩ := Prod.mk.inj (Option.some.inj hPlace)
            exact ⟨x :: rest, rfl, hHere, by simp⟩
          · rintro ⟨tail, hText, hFound, hEarlier⟩
            cases skipped with
            | nil =>
                obtain rfl : x :: rest = tail := hText
                rw [hHere] at hFound
                rw [Option.some.inj hFound]
            | cons y skipped =>
                have hNone := hEarlier 0 (by simp)
                rw [List.drop_zero, hHere] at hNone
                cases hNone
      | none =>
          rw [firstPlace_of_none hHere]
          constructor
          · intro hPlace
            obtain ⟨⟨later, behind⟩, hLater, hEq⟩ :=
              Option.map_eq_some_iff.mp hPlace
            obtain ⟨rfl, rfl⟩ := Prod.mk.inj hEq
            obtain ⟨tail, rfl, hFound, hEarlier⟩ := ih.mp hLater
            refine ⟨tail, rfl, hFound, fun i hi => ?_⟩
            cases i with
            | zero => exact hHere
            | succ i => exact hEarlier i (by simpa using hi)
          · rintro ⟨tail, hText, hFound, hEarlier⟩
            cases skipped with
            | nil =>
                obtain rfl : x :: rest = tail := hText
                rw [hHere] at hFound
                cases hFound
            | cons y skipped =>
                obtain ⟨rfl, rfl⟩ := List.cons.inj hText
                have hPlace := ih.mpr ⟨tail, rfl, hFound, fun i hi => by
                  simpa using hEarlier (i + 1) (by simpa using hi)⟩
                rw [hPlace]
                rfl

end FirstPlace

end Retag

import Retag.Guard

/-!
# Tables

Tables are lists of keys with values, and the first entry with a key counts.
What is put into a table is found under its key and hides nothing else.

## Main results

* `lookup_putEntry`: what is found after a value was put under a key.
-/

namespace Retag

variable {α β : Type} [BEq α]

theorem mem_putEntry {key : α} {value : β} {table : List (α × β)}
    {entry : α × β} (hMem : entry ∈ putEntry key value table) :
    entry.2 = value ∨ entry ∈ table := by
  induction table with
  | nil => exact .inl (congrArg Prod.snd (List.mem_singleton.mp hMem))
  | cons first table ih =>
      unfold putEntry at hMem
      split at hMem
      · rcases List.mem_cons.mp hMem with rfl | hLater
        · exact .inl rfl
        · exact .inr (List.mem_cons_of_mem _ hLater)
      · rcases List.mem_cons.mp hMem with rfl | hLater
        · exact .inr List.mem_cons_self
        · exact (ih hLater).imp_right (List.mem_cons_of_mem _)

variable [LawfulBEq α]

theorem mem_of_lookup {key : α} {value : β} {table : List (α × β)}
    (hLookup : table.lookup key = some value) : (key, value) ∈ table := by
  obtain ⟨front, back, rfl, -⟩ := List.lookup_eq_some_iff.mp hLookup
  exact List.mem_append_right _ List.mem_cons_self

theorem lookup_putEntry (key k : α) (value : β) (table : List (α × β)) :
    (putEntry key value table).lookup k = if k == key then some value
    else table.lookup k := by
  induction table with
  | nil =>
      simp only [putEntry, List.lookup_cons, List.lookup_nil]
      cases k == key <;> rfl
  | cons entry table ih =>
      unfold putEntry
      by_cases hKey : entry.1 = key
      · subst hKey
        rw [if_pos (beq_self_eq_true _), List.lookup_cons, List.lookup_cons]
        cases k == entry.1 <;> rfl
      · rw [if_neg (by simpa using hKey), List.lookup_cons, List.lookup_cons, ih]
        by_cases hHere : k = entry.1
        · subst hHere
          simp [hKey]
        · have hMiss : (k == entry.1) = false := by simpa using hHere
          simp [hMiss]

theorem mem_keys_putEntry {key k : α} {value : β} {table : List (α × β)} :
    k ∈ (putEntry key value table).map (·.1) ↔
      k = key ∨ k ∈ table.map (·.1) := by
  induction table with
  | nil => simp [putEntry]
  | cons entry table ih =>
      unfold putEntry
      by_cases hKey : entry.1 = key
      · subst hKey
        simp
      · rw [if_neg (by simpa using hKey), List.map_cons, List.mem_cons, ih,
          List.map_cons, List.mem_cons]
        exact or_left_comm

theorem lookup_eq_none_iff {key : α} {table : List (α × β)} :
    table.lookup key = none ↔ key ∉ table.map (·.1) := by
  rw [List.lookup_eq_none_iff]
  constructor
  · intro hMiss hMem
    obtain ⟨entry, hEntry, rfl⟩ := List.mem_map.mp hMem
    simpa using hMiss entry hEntry
  · intro hNew entry hEntry
    exact bne_iff_ne.mpr fun hSame => hNew (hSame ▸ List.mem_map_of_mem hEntry)

/-- A new key is put at the end. -/
theorem putEntry_of_not_mem {key : α} {value : β} {table : List (α × β)}
    (hNew : key ∉ table.map (·.1)) :
    putEntry key value table = table ++ [(key, value)] := by
  induction table with
  | nil => rfl
  | cons entry table ih =>
      rw [List.map_cons, List.mem_cons, not_or] at hNew
      obtain ⟨hOther, hLater⟩ := hNew
      have hMiss : (entry.1 == key) = false := by
        simpa using fun hSame => hOther hSame.symm
      rw [putEntry, hMiss, ih hLater]
      rfl

end Retag

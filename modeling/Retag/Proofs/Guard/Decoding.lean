import Retag.Proofs.Regex.PlainMatch
import Retag.Proofs.Table

/-!
# Decoding sentinels

Putting characters back and removing sentinels are one thing: the text is
read from left to right, a sentinel is replaced by what it stands for, and
every other character is copied.  `Guard.decode` reads a text like this
without an expression, and the expression of a guard finds the same sentinels.

A guard is unambiguous if no sentinel begins another one.  Then a sentinel is
recognised wherever the reading comes to its start, whatever follows it, and
a text that was protected is read back in step, one character at a time.

## Main results

* `restore_eq_decode`, `strip_eq_decode`: the two readings of a guard.
* `decode_protect`: protected text is read back, and what follows it is read
  as if it stood alone.
-/

namespace Retag

open Regex Text

namespace Guard

variable (g : Guard)

/-! ## What sentinels mean -/

/-- A sentinel means the last character that has it. -/
theorem lookup_meanings (s : Text) :
    g.meanings.lookup s = (g.entries.reverse.find? fun e => e.2 == s).map (·.1) := by
  have hFold : ∀ (entries : List (Char × Text)) (table : List (Text × Char)),
      (entries.foldl (fun table entry => putEntry entry.2 entry.1 table)
          table).lookup s =
        ((entries.reverse.find? fun e => e.2 == s).map (·.1)).or (table.lookup s) := by
    intro entries
    -- what is put in later hides what is in the table
    induction entries with
    | nil => intro table; rfl
    | cons entry entries ih =>
        intro table
        rw [List.foldl_cons, ih, lookup_putEntry, List.reverse_cons, List.find?_append]
        cases entries.reverse.find? fun e => e.2 == s with
        | some found => rfl
        | none =>
            by_cases hSame : entry.2 = s
            · subst hSame
              simp
            · have hSwap : ¬ s = entry.2 := fun h => hSame h.symm
              simp [hSame, hSwap]
  unfold meanings
  rw [hFold]
  exact Option.or_none

theorem mem_sentinels {s : Text} :
    s ∈ g.sentinels ↔ ∃ c, (c, s) ∈ g.entries := by
  have hFold : ∀ (entries : List (Char × Text)) (table : List (Text × Char)),
      s ∈ (entries.foldl (fun table entry => putEntry entry.2 entry.1 table)
          table).map (·.1) ↔
        (∃ c, (c, s) ∈ entries) ∨ s ∈ table.map (·.1) := by
    intro entries
    induction entries with
    | nil => intro table; simp
    | cons entry entries ih =>
        intro table
        obtain ⟨c, sentinel⟩ := entry
        rw [List.foldl_cons, ih, mem_keys_putEntry]
        constructor
        · rintro (⟨d, hMem⟩ | rfl | hMem)
          · exact .inl ⟨d, List.mem_cons_of_mem _ hMem⟩
          · exact .inl ⟨c, List.mem_cons_self⟩
          · exact .inr hMem
        · rintro (⟨d, hMem⟩ | hMem)
          · rcases List.mem_cons.mp hMem with hSame | hMem
            · exact .inr (.inl (Prod.mk.inj hSame).2)
            · exact .inl ⟨d, hMem⟩
          · exact .inr (.inr hMem)
  unfold sentinels
  rw [List.mem_mergeSort]
  exact (hFold g.entries []).trans (by simp)

/-- The text that a sentinel stands for. -/
def original (s : Text) : Text := (g.meanings.lookup s).toList

theorem meaning_of_mem {s : Text} (hMem : s ∈ g.sentinels) :
    g.meaning s = .ok (g.original s) := by
  obtain ⟨c, hEntry⟩ := g.mem_sentinels.mp hMem
  have hFound : ((g.entries.reverse.find? fun e => e.2 == s).map (·.1)).isSome := by
    rw [Option.isSome_map, List.find?_isSome]
    exact ⟨(c, s), List.mem_reverse.mpr hEntry, beq_self_eq_true s⟩
  rw [← lookup_meanings] at hFound
  obtain ⟨d, hLookup⟩ := Option.isSome_iff_exists.mp hFound
  simp [meaning, original, hLookup]

/-! ## Reading a text -/

/-- The sentinel at the start of a text. -/
def sentinelAt? (text : Text) : Option Text := g.sentinels.find? (·.isPrefixOf text)

/-- Reads a text from left to right, and says what is put in the place of
every sentinel. -/
def decode (emit : Text → Text) : Text → Text
  | [] => []
  | x :: rest =>
    match g.sentinelAt? (x :: rest) with
    | some s => emit s ++ decode emit (rest.drop (s.length - 1))
    | none => x :: decode emit rest
termination_by text => text.length
decreasing_by
  all_goals simp only [List.length_drop, List.length_cons]; omega

variable {g} {emit : Text → Text}

@[simp] theorem decode_nil : g.decode emit [] = [] := by
  rw [decode]

theorem decode_of_none {x : Char} {rest : Text}
    (hNone : g.sentinelAt? (x :: rest) = none) :
    g.decode emit (x :: rest) = x :: g.decode emit rest := by
  rw [decode, hNone]

/-- A sentinel is replaced, and the reading goes on behind it. -/
theorem decode_of_some {text s : Text} (hSome : g.sentinelAt? text = some s)
    (hNe : s ≠ []) :
    g.decode emit text = emit s ++ g.decode emit (text.drop s.length) := by
  obtain ⟨count, hCount⟩ :=
    Nat.exists_eq_succ_of_ne_zero (mt List.length_eq_zero_iff.mp hNe)
  cases text with
  | nil =>
      have hPrefix := List.find?_some hSome
      simp only [List.isPrefixOf_iff_prefix, List.prefix_nil] at hPrefix
      exact absurd hPrefix hNe
  | cons x rest =>
      rw [decode, hSome, hCount, List.drop_succ_cons]
      simp only [hCount, Nat.succ_sub_one]

theorem decode_of_firstPlace_none {text : Text}
    (hNone : firstPlace g.sentinelAt? text = none) :
    g.decode emit text = text := by
  induction text with
  | nil => exact decode_nil
  | cons x rest ih =>
      cases hHere : g.sentinelAt? (x :: rest) with
      | some s => rw [firstPlace_of_some hHere] at hNone; cases hNone
      | none =>
          rw [firstPlace_of_none hHere, Option.map_eq_none_iff] at hNone
          rw [decode_of_none hHere, ih hNone]

theorem decode_of_firstPlace_some {text skipped s : Text} (hNe : s ≠ [])
    (hPlace : firstPlace g.sentinelAt? text = some (skipped, s)) :
    g.decode emit text =
      skipped ++ emit s ++ g.decode emit (text.drop (skipped.length + s.length)) := by
  induction text generalizing skipped with
  | nil =>
      obtain ⟨tail, hText, hFound, -⟩ := firstPlace_eq_some.mp hPlace
      obtain ⟨rfl, rfl⟩ := List.append_eq_nil_iff.mp hText.symm
      rw [decode_of_some hFound hNe]
      simp
  | cons x rest ih =>
      cases hHere : g.sentinelAt? (x :: rest) with
      | some found =>
          rw [firstPlace_of_some hHere] at hPlace
          obtain ⟨rfl, rfl⟩ := Prod.mk.inj (Option.some.inj hPlace)
          rw [decode_of_some hHere hNe]
          simp
      | none =>
          rw [firstPlace_of_none hHere] at hPlace
          obtain ⟨⟨later, found⟩, hLater, hEq⟩ :=
            Option.map_eq_some_iff.mp hPlace
          obtain ⟨rfl, rfl⟩ := Prod.mk.inj hEq
          rw [decode_of_none hHere, ih hLater]
          simp [Nat.add_right_comm]

/-! ## The expression of a guard -/

theorem run_exactly (text : Text) (k : Cont) :
    (exactly text).run k = expecting text k := by
  induction text with
  | nil => exact (expecting_nil k).symm
  | cons c text ih =>
      show (Node.one (.single c.toNat)).run ((exactly text).run k) = _
      rw [run_single, ih, expecting_append]
      rfl

/-- One of several texts is the first of them that stands there. -/
theorem run_anyOf {texts : List Text} (hTexts : texts ≠ []) (s : Spot) :
    (anyOf texts).run some s =
      (texts.find? (·.isPrefixOf s.cursor.rest)).map fun text =>
        ⟨s.cursor.past text.length, s.marks⟩ := by
  induction texts with
  | nil => exact absurd rfl hTexts
  | cons text texts ih =>
      have hFirst : (exactly text).run some s = expecting text some s := by
        rw [run_exactly]
      have hAlternatives : (anyOf (text :: texts)).run some s =
          orTry (expecting text some s) fun _ =>
            (texts.find? (·.isPrefixOf s.cursor.rest)).map fun text =>
              ⟨s.cursor.past text.length, s.marks⟩ := by
        cases texts with
        | nil =>
            show (exactly text).run some s = _
            rw [hFirst]
            cases expecting text some s <;> rfl
        | cons other texts =>
            rw [← ih (by simp), ← hFirst]
            rfl
      rw [hAlternatives, List.find?_cons]
      unfold expecting
      cases text.isPrefixOf s.cursor.rest <;> rfl

/-- A table with entries, none of whose sentinels is empty. -/
structure Solid (g : Guard) : Prop where
  entries_ne : g.entries ≠ []
  sentinel_ne : ∀ e ∈ g.entries, e.2 ≠ []

theorem sentinels_ne (hEntries : g.entries ≠ []) : g.sentinels ≠ [] := by
  obtain ⟨e, hMem⟩ := List.exists_mem_of_ne_nil _ hEntries
  exact List.ne_nil_of_mem (g.mem_sentinels.mpr ⟨e.1, hMem⟩)

theorem Solid.ne_of_mem (hSolid : g.Solid) {s : Text} (hMem : s ∈ g.sentinels) :
    s ≠ [] := by
  obtain ⟨c, hEntry⟩ := g.mem_sentinels.mp hMem
  exact hSolid.sentinel_ne _ hEntry

theorem matchAt?_finder (hSolid : g.Solid) (c : Cursor) :
    g.finder.matchAt? false c =
      (g.sentinelAt? c.rest).map fun s => ⟨c, c.past s.length, []⟩ := by
  rw [Node.matchAt?_eq, finder, run_anyOf (sentinels_ne hSolid.entries_ne),
    Option.map_map]
  rfl

theorem mem_sentinels_of_firstPlace {text skipped s : Text}
    (hPlace : firstPlace g.sentinelAt? text = some (skipped, s)) :
    s ∈ g.sentinels ∧ ∃ after, text = skipped ++ s ++ after := by
  obtain ⟨tail, rfl, hFound, -⟩ := firstPlace_eq_some.mp hPlace
  refine ⟨List.mem_of_find?_eq_some hFound, ?_⟩
  have hPrefix := List.find?_some hFound
  rw [List.isPrefixOf_iff_prefix] at hPrefix
  obtain ⟨after, rfl⟩ := hPrefix
  exact ⟨after, (List.append_assoc _ _ _).symm⟩

/-- Replacing the matches of the finder is reading the text. -/
theorem replaceFrom_finder (hSolid : g.Solid) (emit : Text → Text)
    {replacement : Text → Except GuardFault Text}
    (hReplacement : ∀ s ∈ g.sentinels, replacement s = .ok (emit s)) (fuel : Nat)
    (c : Cursor) (hFuel : c.left < fuel) :
    replaceFrom replacement c (g.finder.matchesWithin fuel false c) =
      .ok (g.decode emit c.rest) := by
  induction fuel generalizing c with
  | zero => omega
  | succ fuel ih =>
      rw [Node.matchesWithin, Node.search?_eq_firstPlace (matchAt?_finder hSolid) c]
      cases hPlace : firstPlace g.sentinelAt? c.rest with
      | none =>
          rw [decode_of_firstPlace_none hPlace]
          rfl
      | some found =>
          obtain ⟨skipped, s⟩ := found
          obtain ⟨hMem, after, hRest⟩ := mem_sentinels_of_firstPlace hPlace
          have hNe := hSolid.ne_of_mem hMem
          have hPos := List.length_pos_iff.mpr hNe
          have hLeft : c.left = skipped.length + s.length + after.length := by
            rw [c.left_eq, hRest, List.length_append, List.length_append]
          have hText : (Match.mk (c.past skipped.length)
              ((c.past skipped.length).past s.length) []).text = s := by
            rw [Match.text, Cursor.upTo_past, Cursor.rest_past, hRest,
              List.append_assoc, List.drop_left, List.take_left]
          have hEmpty : (Match.mk (c.past skipped.length)
              ((c.past skipped.length).past s.length) []).isEmpty = false := by
            simp only [Match.isEmpty, Cursor.left_past, beq_eq_false_iff_ne]
            omega
          have hSkipped : c.upTo (c.past skipped.length) = skipped := by
            rw [Cursor.upTo_past, hRest, List.append_assoc, List.take_left]
          have hStop : ((c.past skipped.length).past s.length).left < fuel := by
            simp only [Cursor.left_past]
            omega
          have hMore := ih _ hStop
          simp only [Option.map_some, replaceFrom, hText, hEmpty, hReplacement s hMem,
            hMore, hSkipped]
          rw [decode_of_firstPlace_some hNe hPlace, Cursor.past_past, Cursor.rest_past]
          rfl

/-- Putting characters back never fails, and is reading the text. -/
theorem restore_eq_decode (hSolid : g.Solid) (text : Text) :
    g.restore text = .ok (g.decode g.original text) :=
  replaceFrom_finder hSolid g.original (fun _ hMem => g.meaning_of_mem hMem) _
    (.first text) (by
    rw [Cursor.left_first]
    omega)

theorem replaceFrom_nothing (c : Cursor) (found : List Match) :
    replaceFrom (fun _ => .ok []) c found = .ok (withoutMatches c found) := by
  induction found generalizing c with
  | nil => rfl
  | cons m more ih =>
      rw [replaceFrom, ih]
      simp [withoutMatches, bind, Except.bind, pure, Except.pure]

theorem strip_eq_decode (hSolid : g.Solid) (text : Text) :
    g.strip text = g.decode (fun _ => []) text := by
  have hNothing := replaceFrom_nothing (.first text) (g.finder.matchesIn text)
  have hReplacement : ∀ s ∈ g.sentinels,
      (fun _ => .ok [] : Text → Except GuardFault Text) s = .ok [] := fun _ _ => rfl
  have hDecode :=
    replaceFrom_finder hSolid (fun _ => []) hReplacement (2 * text.length + 1)
    (.first text) (by
      rw [Cursor.left_first]
      omega)
  exact Except.ok.inj (hNothing.symm.trans hDecode)

/-! ## Unambiguous guards -/

/-- A guard none of whose sentinels begins another one. -/
structure Unambiguous (g : Guard) : Prop extends g.Solid where
  /-- Entries are known by the start of a text. -/
  apart : ∀ a ∈ g.entries, ∀ b ∈ g.entries, a.2 <+: b.2 → a = b

/-- A character that the guard leaves alone and that begins no sentinel. -/
def Leaves (g : Guard) (x : Char) : Prop := ∀ e ∈ g.entries, e.2.head? ≠ some x

theorem sentinelAt?_of_leaves (hSolid : g.Solid) {x : Char} (hLeaves : g.Leaves x)
    (rest : Text) : g.sentinelAt? (x :: rest) = none := by
  refine List.find?_eq_none.mpr fun s hMem => ?_
  obtain ⟨c, hEntry⟩ := g.mem_sentinels.mp hMem
  have hNe := hSolid.sentinel_ne _ hEntry
  have hHead := hLeaves _ hEntry
  cases s with
  | nil => exact absurd rfl hNe
  | cons y s =>
      rw [List.isPrefixOf_iff_prefix, List.cons_prefix_cons]
      rintro ⟨rfl, -⟩
      exact hHead rfl

theorem decode_cons (hSolid : g.Solid) {x : Char} (hLeaves : g.Leaves x) (rest : Text) :
    g.decode emit (x :: rest) = x :: g.decode emit rest :=
  decode_of_none (sentinelAt?_of_leaves hSolid hLeaves rest)

/-- Text whose characters begin no sentinel is copied, and what follows it is
read as if it stood alone. -/
theorem decode_append (hSolid : g.Solid) {text : Text}
    (hLeaves : ∀ x ∈ text, g.Leaves x)
    (rest : Text) : g.decode emit (text ++ rest) = text ++ g.decode emit rest := by
  induction text with
  | nil => rfl
  | cons x text ih =>
      rw [List.cons_append, decode_cons hSolid (hLeaves x List.mem_cons_self),
        ih fun y hMem => hLeaves y (List.mem_cons_of_mem _ hMem), List.cons_append]

section Unambiguous

variable (hGuard : g.Unambiguous) {c : Char} {s : Text} (hEntry : (c, s) ∈ g.entries)
include hGuard hEntry

theorem original_of_entry : g.original s = [c] := by
  have hFound : ((g.entries.reverse.find? fun e => e.2 == s)).isSome := by
    rw [List.find?_isSome]
    exact ⟨(c, s), List.mem_reverse.mpr hEntry, beq_self_eq_true s⟩
  obtain ⟨e, hFind⟩ := Option.isSome_iff_exists.mp hFound
  have hMem := List.mem_reverse.mp (List.mem_of_find?_eq_some hFind)
  have hSame : e.2 = s := by simpa using List.find?_some hFind
  have hEq : e = (c, s) := hGuard.apart e hMem (c, s) hEntry (by simp [hSame])
  rw [original, lookup_meanings, hFind, hEq]
  rfl

theorem sentinelAt?_append (rest : Text) : g.sentinelAt? (s ++ rest) = some s := by
  have hFound : (g.sentinelAt? (s ++ rest)).isSome := by
    rw [sentinelAt?, List.find?_isSome]
    exact ⟨s, g.mem_sentinels.mpr ⟨c, hEntry⟩, by simp⟩
  obtain ⟨other, hFind⟩ := Option.isSome_iff_exists.mp hFound
  obtain ⟨d, hOther⟩ := g.mem_sentinels.mp (List.mem_of_find?_eq_some hFind)
  have hPrefix := List.find?_some hFind
  rw [List.isPrefixOf_iff_prefix] at hPrefix
  rw [hFind]
  -- both sentinels begin the same text, so one of them begins the other
  rcases List.prefix_or_prefix_of_prefix hPrefix (List.prefix_append s rest) with
    hShort | hLong
  · rw [(Prod.mk.inj (hGuard.apart _ hOther _ hEntry hShort)).2]
  · rw [(Prod.mk.inj (hGuard.apart _ hEntry _ hOther hLong)).2]

/-- A sentinel is replaced, and what follows it is read as if it stood alone. -/
theorem decode_sentinel (rest : Text) :
    g.decode emit (s ++ rest) = emit s ++ g.decode emit rest := by
  rw [decode_of_some (sentinelAt?_append hGuard hEntry rest)
    (hGuard.sentinel_ne _ hEntry), List.drop_left]

end Unambiguous

/-- A character that the guard protects, or that begins no sentinel. -/
def Handles (g : Guard) (x : Char) : Prop := g.entries.lookup x = none → g.Leaves x

/-- What reading gives for one character of the text that was protected. -/
def echo (g : Guard) (emit : Text → Text) (x : Char) : Text :=
  match g.entries.lookup x with
  | some s => emit s
  | none => [x]

theorem protect_cons (x : Char) (text : Text) :
    g.protect (x :: text) = (g.entries.lookup x).getD [x] ++ g.protect text :=
  List.flatMap_cons ..

/-- In front of more text, the protected text is read in step with what it was
made from: no sentinel begins at a character that the guard leaves alone. -/
def InStep (g : Guard) (text rest : Text) : Prop :=
  ∀ x more, x :: more <:+ text → g.entries.lookup x = none →
    g.sentinelAt? (x :: (g.protect more ++ rest)) = none

theorem InStep.tail {x : Char} {text rest : Text} (hStep : g.InStep (x :: text) rest) :
    g.InStep text rest := fun y more hSuffix =>
  hStep y more (hSuffix.trans (List.suffix_cons x text))

/-- Protected text that is read in step is read one character after the other,
and what follows it is read as if it stood alone. -/
theorem decode_protect_of_inStep (hGuard : g.Unambiguous) {text rest : Text}
    (hStep : g.InStep text rest) :
    g.decode emit (g.protect text ++ rest) =
      text.flatMap (g.echo emit) ++ g.decode emit rest := by
  induction text with
  | nil => rfl
  | cons x text ih =>
      rw [protect_cons, List.flatMap_cons, List.append_assoc, List.append_assoc,
        ← ih hStep.tail]
      cases hLookup : g.entries.lookup x with
      | some s =>
          have hEntry : (x, s) ∈ g.entries := mem_of_lookup hLookup
          simp only [Option.getD_some, echo, hLookup]
          exact decode_sentinel hGuard hEntry _
      | none =>
          simp only [Option.getD_none, echo, hLookup, List.singleton_append]
          exact decode_of_none (hStep x text List.suffix_rfl hLookup)

theorem inStep_of_handles (hSolid : g.Solid) {text : Text}
    (hHandles : ∀ x ∈ text, g.Handles x)
    (rest : Text) : g.InStep text rest := fun x _ hSuffix hLookup =>
  sentinelAt?_of_leaves hSolid (hHandles x (hSuffix.subset List.mem_cons_self) hLookup)
    _

/-- Protected text is read in step, whatever follows it, if its characters
begin no sentinels. -/
theorem decode_protect (hGuard : g.Unambiguous) {text : Text}
    (hHandles : ∀ x ∈ text, g.Handles x) (rest : Text) :
    g.decode emit (g.protect text ++ rest) =
      text.flatMap (g.echo emit) ++ g.decode emit rest :=
  decode_protect_of_inStep hGuard (inStep_of_handles hGuard.toSolid hHandles rest)

theorem echo_original (hGuard : g.Unambiguous) (x : Char) :
    g.echo g.original x = [x] := by
  unfold echo
  cases hLookup : g.entries.lookup x with
  | none => rfl
  | some s =>
      exact original_of_entry hGuard (mem_of_lookup hLookup)

/-! ## The default guard -/

theorem unambiguous_default : Guard.default.Unambiguous where
  entries_ne := by decide
  sentinel_ne := by decide
  apart := by decide

/-- Every default sentinel begins with the bracket. -/
theorem leaves_default {x : Char} (hBracket : x ≠ bracket) :
    Guard.default.Leaves x := by
  have hHeads : ∀ e ∈ Guard.default.entries, e.2.head? = some bracket := by decide
  intro e hMem hHead
  rw [hHeads e hMem] at hHead
  exact hBracket (Option.some.inj hHead).symm

end Guard

end Retag

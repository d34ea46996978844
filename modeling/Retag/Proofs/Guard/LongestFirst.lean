import Retag.Proofs.Computation
import Retag.Proofs.Guard.Decoding
import Retag.Proofs.Regex.PlainChoice

/-!
# Sentinels are read longest first

One sentinel may begin another one, and several characters may have the same.
`Guard.readLongest` says what is put back all the same: at every place the
longest sentinel that stands there is taken, and it means the last character
that has it.

The expression of a guard knows no lengths.  It tries its alternatives in
order, and the order is what makes the longest sentinel come first: what is
found in the sorted list of the sentinels is the entry that `Guard.entryAt?`
picks from the table.  That the alternatives are the sentinels, and not what
their characters mean in an expression, is due to the backslashes in its text.

## Main results

* `compile_finderText`: the text of the expression compiles to what finds the sentinels.
* `sentinelAt?_eq`: the first of the sorted sentinels is the longest one.
* `sentinels_are_read_longest_first`: restoring and stripping.
-/

namespace Retag

open Regex Text

namespace Guard

variable (g : Guard)

/-! ## The direct reading -/

/-- The last of the entries that have the longest sentinels. -/
def lastLongest : List (Char × Text) → Option (Char × Text)
  | [] => none
  | entry :: more =>
    match lastLongest more with
    | some later => if later.2.length < entry.2.length then some entry else some later
    | none => some entry

/-- The entry whose sentinel is read at the start of a text. -/
def entryAt? (text : Text) : Option (Char × Text) :=
  lastLongest (g.entries.filter fun entry => entry.2.isPrefixOf text)

/-- Reads a text from left to right.  Where sentinels stand the longest one is
taken, and something is put for its character; every other character is copied. -/
def readLongest (put : Char → Text) : Text → Text
  | [] => []
  | x :: rest =>
    match g.entryAt? (x :: rest) with
    | some entry => put entry.1 ++ readLongest put (rest.drop (entry.2.length - 1))
    | none => x :: readLongest put rest
termination_by text => text.length
decreasing_by
  all_goals simp only [List.length_drop, List.length_cons]; omega

/-! ## The entry of a place -/

theorem lastLongest_eq_none {entries : List (Char × Text)} :
    lastLongest entries = none ↔ entries = [] := by
  cases entries with
  | nil => exact iff_of_true rfl rfl
  | cons entry more =>
      refine iff_of_false ?_ (List.cons_ne_nil _ _)
      unfold lastLongest
      split
      · split <;> exact Option.some_ne_none _
      · exact Option.some_ne_none _

/-- No sentinel is longer, and those behind it are shorter. -/
theorem lastLongest_eq_some {entries : List (Char × Text)} {entry : Char × Text}
    (hSome : lastLongest entries = some entry) :
    ∃ front back, entries = front ++ entry :: back ∧
      (∀ e ∈ front, e.2.length ≤ entry.2.length) ∧
      ∀ e ∈ back, e.2.length < entry.2.length := by
  induction entries generalizing entry with
  | nil => cases hSome
  | cons first more ih =>
      unfold lastLongest at hSome
      cases hMore : lastLongest more with
      | none =>
          rw [hMore] at hSome
          cases hSome
          rw [lastLongest_eq_none.mp hMore]
          exact ⟨[], [], rfl, by simp, by simp⟩
      | some later =>
          rw [hMore] at hSome
          obtain ⟨front, back, rfl, hFront, hBack⟩ := ih hMore
          by_cases hShorter : later.2.length < first.2.length
          · simp only [if_pos hShorter, Option.some.injEq] at hSome
            subst hSome
            refine ⟨[], _, rfl, by simp, fun e hMem => ?_⟩
            rcases List.mem_append.mp hMem with hMem | hMem
            · exact Nat.lt_of_le_of_lt (hFront e hMem) hShorter
            · rcases List.mem_cons.mp hMem with rfl | hMem
              · exact hShorter
              · exact Nat.lt_trans (hBack e hMem) hShorter
          · simp only [if_neg hShorter, Option.some.injEq] at hSome
            subst hSome
            refine ⟨first :: front, back, rfl, fun e hMem => ?_, hBack⟩
            rcases List.mem_cons.mp hMem with rfl | hMem
            · exact Nat.le_of_not_lt hShorter
            · exact hFront e hMem

variable {g}

theorem entryAt?_eq_none {text : Text} :
    g.entryAt? text = none ↔ ∀ e ∈ g.entries, ¬ e.2 <+: text := by
  rw [entryAt?, lastLongest_eq_none, List.filter_eq_nil_iff]
  simp only [List.isPrefixOf_iff_prefix]

/-- The entry of a place: its sentinel stands there, none that stands there is
longer, and no later entry has the same. -/
theorem entryAt?_eq_some {text : Text} {entry : Char × Text}
    (hSome : g.entryAt? text = some entry) :
    entry.2 <+: text ∧
      (∀ e ∈ g.entries, e.2 <+: text → e.2.length ≤ entry.2.length) ∧
      ∃ front back, g.entries = front ++ entry :: back ∧
      ∀ e ∈ back, e.2 ≠ entry.2 := by
  obtain ⟨front, back, hFound, hFront, hBack⟩ := lastLongest_eq_some hSome
  have hStands : ∀ e, e ∈ g.entries ∧ e.2 <+: text ↔
      e ∈ front ++ entry :: back := by
    intro e
    rw [← hFound, List.mem_filter, List.isPrefixOf_iff_prefix]
  have hPrefix : entry.2 <+: text :=
    ((hStands entry).mpr (List.mem_append_right _ List.mem_cons_self)).2
  refine ⟨hPrefix, fun e hMem hHere => ?_, ?_⟩
  · rcases List.mem_append.mp ((hStands e).mp ⟨hMem, hHere⟩) with hMem | hMem
    · exact hFront e hMem
    · rcases List.mem_cons.mp hMem with rfl | hMem
      · exact Nat.le_refl _
      · exact Nat.le_of_lt (hBack e hMem)
  · -- what is left out of the table stands elsewhere, so it is not this sentinel
    obtain ⟨before, others, hEntries, -, hOthers⟩ :=
      List.filter_eq_append_iff.mp hFound
    obtain ⟨between, behind, rfl, -, -, hBehind⟩ :=
      List.filter_eq_cons_iff.mp hOthers
    refine ⟨before ++ between, behind, by rw [hEntries, List.append_assoc],
      fun e hMem hSame => ?_⟩
    have hLater : e ∈ back := by
      rw [← hBehind, List.mem_filter, List.isPrefixOf_iff_prefix, hSame]
      exact ⟨hMem, hPrefix⟩
    have hShorter := hBack e hLater
    rw [hSame] at hShorter
    exact Nat.lt_irrefl _ hShorter

/-! ## The order of the alternatives -/

theorem sorted_sentinels (g : Guard) :
    g.sentinels.Pairwise fun a b => b.length ≤ a.length := by
  have hSorted : g.sentinels.Pairwise fun a b =>
      decide (b.length ≤ a.length) = true := by
    refine List.pairwise_mergeSort (fun a b c hAB hBC => ?_) (fun a b => ?_) _
    · exact decide_eq_true
        (Nat.le_trans (of_decide_eq_true hBC) (of_decide_eq_true hAB))
    · rw [Bool.or_eq_true, decide_eq_true_iff, decide_eq_true_iff]
      exact Nat.le_total _ _
  exact hSorted.imp of_decide_eq_true

/-- No sentinel that stands at a place is longer than the first of the sorted ones. -/
theorem length_le_of_sentinelAt? {text s t : Text}
    (hFound : g.sentinelAt? text = some s)
    (hMem : t ∈ g.sentinels) (hPrefix : t <+: text) : t.length ≤ s.length := by
  obtain ⟨-, earlier, later, hSplit, hEarlier⟩ :=
    List.find?_eq_some_iff_append.mp hFound
  have hOrder := g.sorted_sentinels
  rw [hSplit, List.pairwise_append] at hOrder
  rw [hSplit] at hMem
  rcases List.mem_append.mp hMem with hMem | hMem
  · have hElsewhere := hEarlier t hMem
    rw [List.isPrefixOf_iff_prefix.mpr hPrefix] at hElsewhere
    cases hElsewhere
  · rcases List.mem_cons.mp hMem with rfl | hMem
    · exact Nat.le_refl _
    · exact List.rel_of_pairwise_cons hOrder.2.1 hMem

/-- The first of the sorted sentinels that stands at a place is the longest one. -/
theorem sentinelAt?_eq (text : Text) :
    g.sentinelAt? text = (g.entryAt? text).map (·.2) := by
  cases hEntry : g.entryAt? text with
  | none =>
      refine List.find?_eq_none.mpr fun s hMem hPrefix => ?_
      obtain ⟨c, hKnown⟩ := g.mem_sentinels.mp hMem
      exact entryAt?_eq_none.mp hEntry _ hKnown (List.isPrefixOf_iff_prefix.mp hPrefix)
  | some entry =>
      obtain ⟨hPrefix, hLongest, front, back, hEntries, -⟩ :=
        entryAt?_eq_some hEntry
      have hMem : entry.2 ∈ g.sentinels := by
        refine g.mem_sentinels.mpr ⟨entry.1, ?_⟩
        rw [hEntries]
        exact List.mem_append_right _ List.mem_cons_self
      have hSome : (g.sentinelAt? text).isSome := by
        rw [sentinelAt?, List.find?_isSome]
        exact ⟨_, hMem, List.isPrefixOf_iff_prefix.mpr hPrefix⟩
      obtain ⟨s, hFound⟩ := Option.isSome_iff_exists.mp hSome
      have hHere := List.find?_some hFound
      rw [List.isPrefixOf_iff_prefix] at hHere
      obtain ⟨c, hKnown⟩ := g.mem_sentinels.mp (List.mem_of_find?_eq_some hFound)
      have hShort : s.length ≤ entry.2.length := hLongest _ hKnown hHere
      have hLong := length_le_of_sentinelAt? hFound hMem hPrefix
      -- two beginnings of one text that are equally long
      have hSame : s = entry.2 :=
        (List.prefix_of_prefix_length_le hHere hPrefix hShort).eq_of_length_le hLong
      rw [hFound, hSame]
      rfl

/-- A sentinel stands for the character of the entry that is read. -/
theorem original_of_entryAt? {text : Text} {entry : Char × Text}
    (hSome : g.entryAt? text = some entry) : g.original entry.2 = [entry.1] := by
  obtain ⟨-, -, front, back, hEntries, hBack⟩ := entryAt?_eq_some hSome
  have hNone : (back.reverse.find? fun e => e.2 == entry.2) = none := by
    refine List.find?_eq_none.mpr fun e hMem hSame => ?_
    exact hBack e (List.mem_reverse.mp hMem) (beq_iff_eq.mp hSame)
  have hLast : (g.entries.reverse.find? fun e => e.2 == entry.2) = some entry := by
    rw [hEntries, List.reverse_append, List.reverse_cons, List.find?_append,
      List.find?_append, hNone, List.find?_singleton, beq_self_eq_true]
    rfl
  rw [original, lookup_meanings, hLast]
  rfl

/-- Reading with the sorted sentinels is the direct reading. -/
theorem decode_eq_readLongest {emit : Text → Text} {put : Char → Text}
    (hPut : ∀ text entry, g.entryAt? text = some entry → emit entry.2 = put entry.1)
    (text : Text) : g.decode emit text = g.readLongest put text := by
  fun_induction g.readLongest put text with
  | case1 => exact decode_nil
  | case2 x rest entry hEntry ih =>
      rw [decode, sentinelAt?_eq, hEntry, Option.map_some]
      simp only [hPut _ _ hEntry, ih]
  | case3 x rest hEntry ih =>
      rw [decode, sentinelAt?_eq, hEntry, Option.map_none]
      simp only [ih]

/-! ## The text of the expression -/

theorem isSign_iff (c : Char) :
    isSign c = true ↔
      c ∈ Reader.metaSigns ++ ['-', '&', '~', '#', ' ', '\t', '\n', '\r', '\x0b',
        '\x0c'] := by
  rw [isSign, Bool.or_eq_true, Reader.isMeta_iff, List.contains_iff_mem,
    List.mem_append]

/-- The backslashes in the expression of a guard. -/
def signRule : BackslashRule where
  marks := isSign
  marks_meta c hMeta := by rw [isSign, hMeta, Bool.true_or]
  marks_sign c hSign := Reader.sign_of_mem (by decide) ((isSign_iff c).mp hSign)

/-- Texts that are tried in order, as the nodes that the compiler makes. -/
theorem run_anyOf_eq (text : Text) (more : List Text) (k : Cont) :
    (Node.oneOf (plainNode text) (more.map plainNode)).run k =
      (anyOf (text :: more)).run k := by
  have hPlain : ∀ text, (plainNode text).run k = (exactly text).run k := by
    intro text
    rw [plainNode, run_literalNodes, run_exactly]
  induction more generalizing text with
  | nil => exact hPlain text
  | cons second more ih =>
      funext s
      show orTry ((plainNode text).run k s)
          (fun _ => (Node.oneOf (plainNode second) (more.map plainNode)).run k s) =
        orTry ((exactly text).run k s) fun _ => (anyOf (second :: more)).run k s
      rw [hPlain, ih]

/-- The text of the expression of a guard with entries compiles, without
groups, and finds what stands in the text. -/
theorem compile_finderText (hEntries : g.entries ≠ []) :
    ∃ r, Regex.compile g.finderText 0 = .ok r ∧ r.groupCount = 0 ∧
      ∀ text, r.matchesIn text = g.finder.matchesIn text := by
  obtain ⟨first, more, hSentinels⟩ :=
    List.exists_cons_of_ne_nil (sentinels_ne hEntries)
  have hText : g.finderText = choiceText signRule (first :: more) := by
    rw [← hSentinels]
    rfl
  refine ⟨_, hText ▸ compile_choice signRule first more, rfl, fun text => ?_⟩
  rw [finder, hSentinels]
  exact Node.matchesIn_congr (run_anyOf_eq first more) text

end Guard

/-- Sentinels of any kind, as long as there are some and none is empty: several
characters may have the same one, one may begin another one, and any character
may occur in them.  The text made of them compiles to an expression without
groups that finds what the guard finds.  Putting characters back never fails and
is the direct reading, which takes the longest sentinel at every place for the
last character that has it; removing sentinels is the same with nothing put for them. -/
theorem sentinels_are_read_longest_first {g : Guard} (hEntries : g.entries ≠ [])
    (hSentinels : ∀ e ∈ g.entries, e.2 ≠ []) :
    (∃ r, Regex.compile g.finderText 0 = .ok r ∧ r.groupCount = 0 ∧
      ∀ text, r.matchesIn text = g.finder.matchesIn text) ∧
    ∀ text, g.restore text = .ok (g.readLongest (fun c => [c]) text) ∧
      g.strip text = g.readLongest (fun _ => []) text := by
  have hSolid : g.Solid := ⟨hEntries, hSentinels⟩
  refine ⟨Guard.compile_finderText hEntries, fun text => ⟨?_, ?_⟩⟩
  · have hRead : g.decode g.original text = g.readLongest (fun c => [c]) text :=
      Guard.decode_eq_readLongest (fun _ _ hEntry => Guard.original_of_entryAt? hEntry)
        text
    rw [Guard.restore_eq_decode hSolid, hRead]
  · rw [Guard.strip_eq_decode hSolid]
    exact Guard.decode_eq_readLongest (fun _ _ _ => rfl) text

/-- A sentinel that begins another one, that two characters have, and one that
is made of signs. -/
theorem sentinels_are_read_longest_first_nested :
    let g : Guard := ⟨[('a', "xy".toList), ('b', "xyx".toList), ('c', "xy".toList),
      ('d', ".*|".toList)]⟩
    g.entries ≠ [] ∧ (∀ e ∈ g.entries, e.2 ≠ []) ∧
      g.finderText = "xyx|\\.\\*\\||xy".toList ∧
      (Regex.compile g.finderText 0).isOk ∧
      g.restore "xyxy.*|zxy".toList = .ok "bydzc".toList ∧
      g.strip "xyxy.*|zxy".toList = "yz".toList := by
  intro g
  have hEntries : g.entries ≠ [] := List.cons_ne_nil _ _
  have hSentinels : ∀ e ∈ g.entries, e.2 ≠ [] := by decide
  have hSorted : g.sentinels = ["xyx".toList, ".*|".toList, "xy".toList] := by
    simp [g, Guard.sentinels, Guard.meanings, putEntry, List.mergeSort]
  have hText : g.finderText = "xyx|\\.\\*\\||xy".toList := by
    rw [Guard.finderText, hSorted]
    decide
  obtain ⟨⟨r, hCompile, -⟩, hRead⟩ :=
    sentinels_are_read_longest_first hEntries hSentinels
  obtain ⟨hRestore, hStrip⟩ := hRead "xyxy.*|zxy".toList
  have hPut : g.readLongest (fun c => [c]) "xyxy.*|zxy".toList = "bydzc".toList := by
    decide +kernel
  have hNothing : g.readLongest (fun _ => []) "xyxy.*|zxy".toList = "yz".toList := by
    decide +kernel
  rw [hPut] at hRestore
  rw [hNothing] at hStrip
  exact ⟨hEntries, hSentinels, hText, by rw [hCompile]; rfl, hRestore, hStrip⟩

end Retag

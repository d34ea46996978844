import Mathlib.Data.List.Infix
import Retag.Proofs.Guard.Decoding

/-!
# Texts that a guard gives back

Protecting a text and putting its characters back gives the text again unless
the reading gets out of step.  It does so where a character that the guard
leaves alone becomes, together with what is written behind it, the start of a
sentinel.  The first such place shows: there a guarded character is put back,
and the text has another one.

For the default guard these places can be told from the text alone.  Its
sentinels begin and end with the same bracket, so a bracket with the name of a
sentinel behind it is completed by a bracket of the text as well as by any
sentinel that is written there.  A guard whose sentinels are made of other
characters than the text never gets out of step.

## Main results

* `restore_protect_iff`: the texts that come back, for every unambiguous guard.
* `default_guard_domain`: those of the default guard.
* `custom_guard_round_trips`: guards from tables of the user.
-/

namespace Retag

open Text

namespace Guard

variable {g : Guard}

/-! ## Reading in step -/

/-- A text comes back exactly if it is read in step. -/
theorem restore_protect_iff (hGuard : g.Unambiguous) (text : Text) :
    g.restore (g.protect text) = .ok text ↔ g.InStep text [] := by
  rw [restore_eq_decode hGuard.toSolid]
  constructor
  · intro hSame
    have hRead := Except.ok.inj hSame
    clear hSame
    induction text with
    | nil =>
        intro x more hSuffix
        exact absurd (List.suffix_nil.mp hSuffix) (List.cons_ne_nil x more)
    | cons x text ih =>
        intro y more hSuffix hNone
        rw [protect_cons] at hRead
        have hInside : g.decode g.original (g.protect text) = text →
          y :: more <:+ text →
            g.sentinelAt? (y :: (g.protect more ++ [])) = none :=
          fun hText hLater => ih hText y more hLater hNone
        cases hLookup : g.entries.lookup x with
        | some s =>
            have hEntry := mem_of_lookup hLookup
            rw [hLookup, Option.getD_some, decode_sentinel hGuard hEntry,
              original_of_entry hGuard hEntry] at hRead
            rcases List.suffix_cons_iff.mp hSuffix with hHere | hLater
            · rw [(List.cons.inj hHere).1, hLookup] at hNone
              cases hNone
            · exact hInside (List.cons.inj hRead).2 hLater
        | none =>
            rw [hLookup, Option.getD_none, List.singleton_append] at hRead
            cases hFound : g.sentinelAt? (x :: g.protect text) with
            | some s =>
                -- a guarded character would be put back here, and `x` is none
                have hMem := List.mem_of_find?_eq_some hFound
                obtain ⟨c, hEntry⟩ := g.mem_sentinels.mp hMem
                rw [decode_of_some hFound (hGuard.ne_of_mem hMem),
                  original_of_entry hGuard hEntry] at hRead
                obtain rfl : c = x := (List.cons.inj hRead).1
                exact absurd (List.mem_map_of_mem hEntry)
                  (lookup_eq_none_iff.mp hLookup)
            | none =>
                rw [decode_of_none hFound] at hRead
                rcases List.suffix_cons_iff.mp hSuffix with hHere | hLater
                · obtain ⟨rfl, rfl⟩ := List.cons.inj hHere
                  rw [List.append_nil]
                  exact hFound
                · exact hInside (List.cons.inj hRead).2 hLater
  · intro hStep
    have hRead : g.decode g.original (g.protect text ++ []) =
        text.flatMap (g.echo g.original) ++ g.decode g.original [] :=
      decode_protect_of_inStep hGuard hStep
    rw [List.append_nil, decode_nil, List.append_nil, funext (echo_original hGuard),
      List.flatMap_singleton'] at hRead
    rw [hRead]

/-- Whether the guard protects a character. -/
def guards (g : Guard) (x : Char) : Bool := (g.entries.lookup x).isSome

/-- Reading the text of guarded characters with nothing in their place drops them. -/
theorem flatMap_echo_nothing (text : Text) :
    text.flatMap (g.echo fun _ => []) = text.filter fun x => !g.guards x := by
  induction text with
  | nil => rfl
  | cons x text ih =>
      rw [List.flatMap_cons, List.filter_cons, ih, echo, guards]
      cases g.entries.lookup x <;> rfl

/-- Removing the sentinels from a text that is read in step removes the
characters that they stand for, and nothing else. -/
theorem strip_protect (hGuard : g.Unambiguous) {text : Text}
    (hStep : g.InStep text []) :
    g.strip (g.protect text) = text.filter fun x => !g.guards x := by
  have hRead : g.decode (fun _ => []) (g.protect text ++ []) =
      text.flatMap (g.echo fun _ => []) ++ g.decode (fun _ => []) [] :=
    decode_protect_of_inStep hGuard hStep
  rw [List.append_nil, decode_nil, List.append_nil, flatMap_echo_nothing] at hRead
  rw [strip_eq_decode hGuard.toSolid, hRead]

/-! ## The default guard -/

/-- The names of the default sentinels. -/
def defaultNames : List String :=
  ["HBSDELIM_OPEN_CURLY", "HBSDELIM_CLOSE_CURLY", "HBSDELIM_BACKSLASH"]

/-- The characters that are written as text that begins with the bracket. -/
def bracketLike : List Char := [bracket, '{', '}', '\\']

/-- A text with a piece that the default guard takes for a sentinel once the
text is protected. -/
def LooksGuarded (text : Text) : Prop :=
  ∃ name ∈ defaultNames, ∃ x ∈
    bracketLike, bracket :: (name.toList ++ [x]) <:+: text

-- the characters are listed, so that no instance looks through all there are
instance (text : Text) : Decidable (LooksGuarded text) :=
  decidable_of_iff (defaultNames.any fun name => bracketLike.any fun x =>
      bracket :: (name.toList ++ [x]) <:+: text)
    (by simp only [LooksGuarded, List.any_eq_true, decide_eq_true_eq])

/-- The default guard protects the braces and the backslash. -/
theorem guards_default (x : Char) :
    (!Guard.default.guards x) = (x != '{' && x != '}' && x != '\\') := by
  simp only [guards, Guard.default, List.lookup_cons, List.lookup_nil, bne]
  cases x == '{' <;> cases x == '}' <;> cases x == '\\' <;> rfl

theorem mem_bracketLike {x : Char} :
    x ∈ bracketLike ↔ x = bracket ∨ x = '{' ∨ x = '}' ∨ x = '\\' := by
  simp only [bracketLike, List.mem_cons, List.not_mem_nil, or_false]

theorem mem_sentinels_default {s : Text} :
    s ∈ Guard.default.sentinels ↔ ∃ name ∈ defaultNames, s = sentinel name := by
  rw [mem_sentinels]
  simp only [Guard.default, defaultNames, List.mem_cons, Prod.mk.injEq,
    List.not_mem_nil, or_false, exists_or, exists_eq_left, exists_eq_or_imp]

/-- What is written without a guarded character, and not in place of one, is
found in a protected text where it stands in the text. -/
theorem prefix_protect (hSolid : g.Solid) {word : Text}
    (hWord : ∀ x ∈ word, g.entries.lookup x = none ∧ g.Leaves x)
    {tail text : Text} :
    word ++ tail <+: g.protect text ↔
      ∃ rest, text = word ++ rest ∧ tail <+: g.protect rest := by
  induction word generalizing text with
  | nil =>
      constructor
      · exact fun hPrefix => ⟨text, rfl, hPrefix⟩
      · rintro ⟨rest, rfl, hPrefix⟩
        exact hPrefix
  | cons x word ih =>
      obtain ⟨hLookup, hLeaves⟩ := hWord x List.mem_cons_self
      have ih := @ih fun y hMem => hWord y (List.mem_cons_of_mem _ hMem)
      constructor
      · intro hPrefix
        cases text with
        | nil => exact absurd (List.prefix_nil.mp hPrefix) (by simp)
        | cons y text =>
            rw [protect_cons] at hPrefix
            cases hOther : g.entries.lookup y with
            | some s =>
                -- a sentinel is written here, and it does not begin with `x`
                have hEntry := mem_of_lookup hOther
                obtain ⟨z, s', rfl⟩ :=
                  List.exists_cons_of_ne_nil (hSolid.sentinel_ne _ hEntry)
                rw [hOther, Option.getD_some] at hPrefix
                obtain rfl : x = z := (List.cons_prefix_cons.mp hPrefix).1
                exact absurd rfl (hLeaves _ hEntry)
            | none =>
                rw [hOther, Option.getD_none] at hPrefix
                obtain ⟨rfl, hLater⟩ := List.cons_prefix_cons.mp hPrefix
                obtain ⟨rest, hText, hTail⟩ := ih.mp hLater
                exact ⟨rest, congrArg (x :: ·) hText, hTail⟩
      · rintro ⟨rest, rfl, hTail⟩
        rw [List.cons_append, List.cons_append, protect_cons, hLookup, Option.getD_none]
        exact List.cons_prefix_cons.mpr ⟨rfl, ih.mpr ⟨rest, rfl, hTail⟩⟩

/-- What is written for a character begins with a bracket if the character is
one or is guarded. -/
theorem head_written (x : Char) :
    ∃ y more, (Guard.default.entries.lookup x).getD [x] = y :: more ∧
      (y = bracket ↔ x ∈ bracketLike) := by
  cases hLookup : Guard.default.entries.lookup x with
  | some s =>
      have hEntries : ∀ e ∈ Guard.default.entries,
          e.2.head? = some bracket ∧ e.1 ∈ bracketLike := by decide
      obtain ⟨hHead, hMem⟩ := hEntries _ (mem_of_lookup hLookup)
      obtain ⟨more, hMore⟩ := List.head?_eq_some_iff.mp hHead
      exact ⟨bracket, more, hMore, fun _ => hMem, fun _ => rfl⟩
  | none =>
      refine ⟨x, [], rfl, ?_, fun hMem => ?_⟩
      · rintro rfl
        exact List.mem_cons_self
      · rcases mem_bracketLike.mp hMem with rfl | rfl | rfl | rfl
        · rfl
        -- the others are guarded
        all_goals cases hLookup

theorem bracket_prefix_protect {text : Text} :
    [bracket] <+: Guard.default.protect text ↔
      ∃ x ∈ bracketLike, [x] <+: text := by
  cases text with
  | nil => simp [protect]
  | cons x text =>
      obtain ⟨y, more, hWritten, hBracket⟩ := head_written x
      rw [protect_cons, hWritten, List.cons_append, List.cons_prefix_cons, eq_comm,
        hBracket]
      simp

/-- A sentinel begins at a character of a protected text where the bracket
stands in the text, with a name and something like a bracket behind it. -/
theorem sentinel_prefix_iff {name : String} (hName : name ∈ defaultNames) {x : Char}
    {text : Text} :
    sentinel name <+: x :: Guard.default.protect text ↔
      x = bracket ∧ ∃ y ∈ bracketLike, name.toList ++ [y] <+: text := by
  have hNames : ∀ name ∈ defaultNames, name.toList.all (· ∉ bracketLike) := by
    decide
  have hWord : ∀ x ∈ name.toList,
      Guard.default.entries.lookup x = none ∧ Guard.default.Leaves x := by
    intro x hMem
    have hOther := of_decide_eq_true (List.all_eq_true.mp (hNames name hName) x hMem)
    have hKeys : ∀ e ∈ Guard.default.entries, e.1 ∈ bracketLike := by decide
    refine ⟨?_, leaves_default fun hSame => hOther (hSame ▸ List.mem_cons_self)⟩
    cases hLookup : Guard.default.entries.lookup x with
    | none => rfl
    | some s => exact absurd (hKeys _ (mem_of_lookup hLookup)) hOther
  rw [sentinel, List.cons_append, List.cons_prefix_cons,
    prefix_protect unambiguous_default.toSolid hWord, eq_comm]
  refine and_congr_right fun _ => ?_
  simp only [bracket_prefix_protect]
  constructor
  · rintro ⟨rest, rfl, y, hLike, hNext⟩
    exact ⟨y, hLike, List.prefix_append_right_inj _ |>.mpr hNext⟩
  · rintro ⟨y, hLike, rest, rfl⟩
    rw [List.append_assoc]
    exact ⟨_, rfl, y, hLike, List.prefix_append [y] rest⟩

/-- A text is read in step by the default guard exactly if no piece of it
looks like a sentinel. -/
theorem inStep_default_iff (text : Text) :
    Guard.default.InStep text [] ↔ ¬ LooksGuarded text := by
  constructor
  · rintro hStep ⟨name, hName, y, hLike, front, back, hText⟩
    have hSuffix : bracket :: (name.toList ++ [y] ++ back) <:+ text :=
      ⟨front, by simpa using hText⟩
    have hNone := hStep _ _ hSuffix (by decide)
    rw [List.append_nil] at hNone
    have hFound :=
      List.find?_eq_none.mp hNone _ (mem_sentinels_default.mpr ⟨name, hName, rfl⟩)
    rw [List.isPrefixOf_iff_prefix, sentinel_prefix_iff hName] at hFound
    exact hFound ⟨rfl, y, hLike, List.prefix_append _ back⟩
  · intro hClear x more hSuffix hLookup
    refine List.find?_eq_none.mpr fun s hMem hPrefix => hClear ?_
    obtain ⟨name, hName, rfl⟩ := mem_sentinels_default.mp hMem
    rw [List.append_nil, List.isPrefixOf_iff_prefix,
      sentinel_prefix_iff hName] at hPrefix
    obtain ⟨rfl, y, hLike, hNext⟩ := hPrefix
    exact ⟨name, hName, y, hLike,
      (List.cons_prefix_cons.mpr ⟨rfl, hNext⟩).isInfix.trans hSuffix.isInfix⟩

/-- The texts that the default guard gives back: those without a piece that
looks like a sentinel, which is a bracket, a name and another bracket or a
guarded character.  From the same texts removing the sentinels removes just
the braces and backslashes. -/
theorem default_guard_domain (text : Text) :
    (Guard.default.restore (Guard.default.protect text) = .ok text ↔
      ¬ LooksGuarded text) ∧
      (¬ LooksGuarded text → Guard.default.strip (Guard.default.protect text) =
        text.filter fun x => x != '{' && x != '}' && x != '\\') := by
  refine ⟨(restore_protect_iff unambiguous_default text).trans
    (inStep_default_iff text), fun hClear => ?_⟩
  rw [strip_protect unambiguous_default ((inStep_default_iff text).mpr hClear),
    funext guards_default]

/-- A name that another character follows comes back, and one that a brace
follows does not, although no sentinel stands in the text. -/
theorem default_guard_domain_braces :
    let near := Guard.bracket :: "HBSDELIM_OPEN_CURLY-\x7b".toList
    let far := Guard.bracket :: "HBSDELIM_OPEN_CURLY\x7b".toList
    ¬ LooksGuarded near ∧ LooksGuarded far ∧
      Guard.default.restore (Guard.default.protect near) = .ok near ∧
      Guard.default.strip (Guard.default.protect near) =
        Guard.bracket :: "HBSDELIM_OPEN_CURLY-".toList ∧
      Guard.default.restore (Guard.default.protect far) ≠ .ok far := by
  intro near far
  have hNear : ¬ LooksGuarded near := by decide +kernel
  have hFar : LooksGuarded far := by decide +kernel
  obtain ⟨hBack, hStrip⟩ := default_guard_domain near
  refine ⟨hNear, hFar, hBack.mpr hNear, (hStrip hNear).trans (by decide),
    fun hSame => ?_⟩
  exact (default_guard_domain far).1.mp hSame hFar

/-! ## Guards from tables -/

/-- A table with each character once is the table of a guard. -/
theorem ofPairs_of_nodup {entries : List (Char × Text)}
    (hKeys : (entries.map (·.1)).Nodup) :
    ofPairs (entries.map fun e => ([e.1], e.2)) = .ok ⟨entries⟩ := by
  have hAdd : ∀ (rest done : List (Char × Text)),
    ((done ++ rest).map (·.1)).Nodup →
      ofPairs.add done (rest.map fun e => ([e.1], e.2)) = .ok ⟨done ++ rest⟩ := by
    intro rest
    induction rest with
    | nil =>
        intro done _
        rw [List.append_nil]
        rfl
    | cons entry rest ih =>
        intro done hNodup
        have hNew : entry.1 ∉ done.map (·.1) := by
          rw [List.map_append, List.nodup_append] at hNodup
          exact fun hMem => hNodup.2.2 _ hMem entry.1 List.mem_cons_self rfl
        have hShift := ih (done ++ [entry]) (by simpa using hNodup)
        rw [List.append_assoc] at hShift
        rw [List.map_cons, ofPairs.add, putEntry_of_not_mem hNew]
        exact hShift
  exact hAdd entries [] hKeys

/-- A table of characters with sentinels none of which begins another one makes
a guard.  It gives back every text whose other characters occur in no sentinel,
whatever characters the sentinels are made of and however they overlap, and
from such a text removing the sentinels removes the guarded characters. -/
theorem custom_guard_round_trips {entries : List (Char × Text)}
    (hKeys : (entries.map (·.1)).Nodup) (hNe : entries ≠ [])
    (hSentinels : ∀ e ∈ entries, e.2 ≠ [])
    (hApart : ∀ a ∈ entries, ∀ b ∈ entries, a ≠ b → ¬ a.2 <+: b.2) :
    ∃ g, ofPairs (entries.map fun e => ([e.1], e.2)) = .ok g ∧
      ∀ text : Text,
        (∀ x ∈ text, x ∉ entries.map (·.1) → ∀ e ∈ entries, x ∉ e.2) →
        g.restore (g.protect text) = .ok text ∧
          g.strip (g.protect text) = text.filter fun x => x ∉ entries.map (·.1) := by
  let g : Guard := ⟨entries⟩
  have hGuard : g.Unambiguous :=
    { entries_ne := hNe
      sentinel_ne := hSentinels
      apart := fun a hA b hB hPrefix =>
        Decidable.byContradiction fun hOther => hApart a hA b hB hOther hPrefix }
  refine ⟨g, ofPairs_of_nodup hKeys, fun text hText => ?_⟩
  have hHandles : ∀ x ∈ text, g.Handles x := by
    intro x hMem hLookup e hEntry hHead
    exact hText x hMem (lookup_eq_none_iff.mp hLookup) e hEntry
      (List.mem_of_head? hHead)
  have hStep := inStep_of_handles hGuard.toSolid hHandles []
  refine ⟨(restore_protect_iff hGuard text).mpr hStep, ?_⟩
  rw [strip_protect hGuard hStep]
  refine congrArg (List.filter · text) (funext fun x => ?_)
  rw [guards, Option.not_isSome, Bool.eq_iff_iff, Option.isNone_iff_eq_none,
    decide_eq_true_iff, lookup_eq_none_iff]

/-- Sentinels made of guarded characters and of characters that have a meaning
in an expression, each of which ends as another one begins. -/
theorem custom_guard_round_trips_overlapping :
    let entries : List (Char × Text) :=
      [('{', "<\x7b".toList), ('<', "\x7b*<".toList), ('.', "*.<".toList)]
    (entries.map (·.1)).Nodup ∧ entries ≠ [] ∧
    (∀ e ∈ entries, e.2 ≠ []) ∧
      (∀ a ∈ entries, ∀ b ∈ entries, a ≠ b → ¬ a.2 <+: b.2) ∧
      ∃ g, ofPairs (entries.map fun e => ([e.1], e.2)) = .ok g ∧
        g.protect "\x7b<.a\x7b".toList = "<\x7b\x7b*<*.<a<\x7b".toList ∧
        g.restore "<\x7b\x7b*<*.<a<\x7b".toList = .ok "\x7b<.a\x7b".toList ∧
        g.strip "<\x7b\x7b*<*.<a<\x7b".toList = "a".toList := by
  intro entries
  have hKeys : (entries.map (·.1)).Nodup := by decide
  have hNe : entries ≠ [] := by decide
  have hSentinels : ∀ e ∈ entries, e.2 ≠ [] := by decide
  have hApart : ∀ a ∈ entries, ∀ b ∈ entries, a ≠ b → ¬ a.2 <+: b.2 := by
    decide
  obtain ⟨g, hMade, hTexts⟩ := custom_guard_round_trips hKeys hNe hSentinels hApart
  obtain ⟨hRestore, hStrip⟩ := hTexts "\x7b<.a\x7b".toList (by simp [entries])
  have hProtect : g.protect "\x7b<.a\x7b".toList = "<\x7b\x7b*<*.<a<\x7b".toList := by
    rw [Except.ok.inj (hMade.symm.trans (ofPairs_of_nodup hKeys))]
    decide
  rw [hProtect] at hRestore hStrip
  exact ⟨hKeys, hNe, hSentinels, hApart, g, hMade, hProtect, hRestore, hStrip⟩

end Guard

end Retag

import Retag.Proofs.Regex.Surroundings

/-!
# What items are made of, in their surroundings

The reader has one function for every kind of thing in an expression: escapes,
character sets, repetitions, flags, comments and names.  Each has one lemma
here, which says that the function reads the same in a fragment and in its
surroundings, and that a term it answers has no groups.  Whatever opens,
names or asks for a group never ends calmly, and its lemma says so.

Three of the functions look back: the limits of a repetition are put back if
they are none, and the flags of a group end at a sign that decides what they
meant.  They are taken apart into steps that read and a step that decides.

The counts in the functions only bound the characters that are left.  A
fragment in its surroundings is read with a greater count.

## Main results

* `embeds_escape`, `embeds_charSet`, `embeds_limits`, `embeds_repeatLast`,
  `embeds_flagsOpening`, `embeds_extension`, `embeds_comment`: the functions
  whose answers agree.
* `stirs_namedReference`, `stirs_condition`: the functions that ask for groups.
-/

namespace Retag.Regex

open Retag.Text

/-- Whether a term neither captures a group nor asks for one. -/
def Term.isUngrouped : Term → Bool
  | .cat a b => a.isUngrouped && b.isUngrouped
  | .alt a b => a.isUngrouped && b.isUngrouped
  | .many _ _ _ body => body.isUngrouped
  | .group index _ _ body => index.isNone && body.isUngrouped
  | .atomic body => body.isUngrouped
  | .look _ _ body => body.isUngrouped
  | .again _ => false
  | .whenSet .. => false
  | .empty => true
  | .char _ => true
  | .notChar _ => true
  | .any => true
  | .set .. => true
  | .anchor _ => true

namespace Reader

section Embeds

variable {α β γ : Type} {w : Surroundings} {n : Nat} {inside : Bool}

theorem fails_of_bind {m : Reader α} {f : α → Reader β}
    (hFails : ∀ a, Fails (f a)) :
    Fails (m >>= f) := by
  intro s c after hRun
  obtain ⟨a, mid, -, hBehind⟩ := bind_run hRun
  exact hFails a mid c after hBehind

/-- A check that refuses or lets pass. -/
theorem embeds_unless {R : α → β → Prop} {p : Prop} [Decidable p] {m : Reader α}
    {m' : Reader β} {bad : Reader PUnit} {k : PUnit → Reader α}
    {bad' : Reader PUnit} {k' : PUnit → Reader β} (hBad : Fails bad)
    (hGood : Embeds w n inside R m m') :
    Embeds w n inside R (if p then m else bad >>= k) (if p then m' else bad' >>= k') :=
  embeds_ite (fun _ => hGood) fun _ => (hBad.bind k).embeds _ _

theorem embeds_when {R : α → β → Prop} {p : Prop} [Decidable p] {m : Reader α}
    {m' : Reader β} {bad : Reader PUnit} {k : PUnit → Reader α}
    {bad' : Reader PUnit} {k' : PUnit → Reader β} (hBad : Fails bad)
    (hGood : Embeds w n inside R m m') :
    Embeds w n inside R (if p then bad >>= k else m) (if p then bad' >>= k' else m') :=
  embeds_ite (fun _ => (hBad.bind k).embeds _ _) fun _ => hGood

/-- A step that is made or replaced by an answer. -/
theorem embeds_either {R : β → γ → Prop} {p : Prop} [Decidable p]
    {m m' : Reader α} {a : α} {f : α → Reader β} {f' : α → Reader γ}
    (hStep : Embeds w n inside (fun a b => b = a) m m')
    (hBehind : ∀ a, Embeds w n inside R (f a) (f' a)) :
    Embeds w n inside R (if p then m >>= f else pure a >>= f)
      (if p then m' >>= f' else pure a >>= f') := by
  refine embeds_ite (fun _ => hStep.bind hBehind) fun _ => ?_
  rw [pure_bind, pure_bind]
  exact hBehind a

/-! ## Escapes -/

theorem embeds_hexEscape (letter : Char) (count : Nat) :
    Embeds w n inside (fun a b => b = a) (hexEscape letter count)
      (hexEscape letter count) := by
  refine (embeds_takeSome (by decide) (.inl rfl)).bind fun digits => ?_
  refine embeds_unless (fails_fail _ _) ?_
  refine embeds_when (fails_throw _) ?_
  exact embeds_when (fails_fail _ _) (embeds_pure rfl)

theorem fails_namedEscape : Fails namedEscape := by
  refine fails_of_bind fun b => ?_
  cases b
  · exact (fails_fail _ _).bind _
  · exact fails_of_bind fun name => fails_fail _ _

theorem embeds_octalEscape (digits : Text) :
    Embeds w n inside (fun a b => b = a) (octalEscape digits) (octalEscape digits) :=
  embeds_when (fails_fail _ _) (embeds_pure rfl)

theorem embeds_otherEscape (c : Char) :
    Embeds w n inside (fun a b => b = a) (otherEscape c) (otherEscape c) :=
  embeds_when (fails_fail _ _) (embeds_pure rfl)

theorem embeds_codeEscape {subject : Subject} {c : Char} {code : Reader Nat}
    (hCode : codeEscape? subject c = some code) :
    Embeds w n inside (fun a b => b = a) code code := by
  unfold codeEscape? at hCode
  split at hCode
  · cases hCode
    exact embeds_hexEscape _ _
  · cases hCode
    exact embeds_hexEscape _ _
  · cases hCode
    exact embeds_hexEscape _ _
  · cases hCode
    exact fails_namedEscape.embeds _ _
  · cases hCode

theorem embeds_setEscape (c : Char) :
    Embeds w n inside (fun a b => b = a) (setEscape c) (setEscape c) := by
  refine embeds_ite (fun _ => embeds_pure rfl) fun _ => ?_
  refine embeds_get fun s t hSubject _ _ _ => ?_
  rw [hSubject]
  split
  · exact embeds_pure rfl
  · exact embeds_pure rfl
  · rename_i code hCode _ _
    exact (embeds_codeEscape hCode).bind fun _ => embeds_pure rfl
  · refine embeds_ite (fun _ => ?_) fun _ => ?_
    · refine (embeds_takeSome (by decide) (.inl rfl)).bind fun digits => ?_
      exact (embeds_octalEscape _).bind fun _ => embeds_pure rfl
    · exact (embeds_otherEscape c).bind fun _ => embeds_pure rfl

/-! ## References -/

theorem checkLookBehind_run {index : Nat} {s after : Reading} {u : Unit}
    (hRun : (checkLookBehind index).run s = .ok (u, after)) : after = s := by
  obtain ⟨t, mid, hGet, hCheck⟩ := bind_run hRun
  cases hGet
  split at hCheck
  · cases hCheck
    rfl
  · obtain ⟨closed, mid, hClosed, hRest⟩ := bind_run hCheck
    cases hClosed
    dsimp only at hRest
    by_cases hSome : (s.groups[index]?.join).isSome = true
    · rw [if_pos hSome] at hRest
      split at hRest
      · exact absurd hRest (fails_fail _ _ s u after)
      · cases hRest
        rfl
    · rw [if_neg hSome] at hRest
      exact absurd hRest ((fails_fail _ _).bind _ s u after)

/-- A group that is closed is not read in a calm fragment: there is no group
but the whole. -/
theorem stirs_closed (index : Nat) (fault : Fault) (back : Nat) (t : Term) :
    Stirs n (do
      unless ← isClosed index do fail fault back
      checkLookBehind index
      return t : Reader Term) := by
  intro s a after hSound _ hRun
  obtain ⟨closed, mid, hClosed, hBehind⟩ := bind_run hRun
  cases hClosed
  by_cases hSome : (s.groups[index]?.join).isSome = true
  · rw [if_pos hSome] at hBehind
    obtain ⟨u, last, hCheck, hPure⟩ := bind_run hBehind
    rw [checkLookBehind_run hCheck] at hPure
    cases hPure
    refine ⟨.refl hSound, fun hCalm => ?_⟩
    rw [hCalm.groups] at hSome
    cases index <;> cases hSome
  · rw [if_neg hSome] at hBehind
    exact absurd hBehind (((fails_fail fault back).bind _) s a after)

/-- A term is read in the surroundings as in the fragment, and has no group. -/
def SameTerm (a b : Term) : Prop := b = a ∧ a.isUngrouped = true

theorem embeds_numberEscape (c : Char) :
    Embeds w n inside SameTerm (numberEscape c) (numberEscape c) := by
  refine (embeds_takeSome (by decide) (.inl rfl)).bind fun second => ?_
  refine embeds_either (embeds_takeSome (by decide) (.inl rfl)) fun third => ?_
  refine embeds_ite (fun _ => ?_) fun _ => ?_
  · have hCount : Steps n groupCount := steps_of_eq fun s a after hRun => by
      cases hRun
      rfl
    refine (hCount.thenStirs fun count => ?_).embeds _ _
    by_cases hIndex : valueOf 10 (c :: second) < count
    · simp only [hIndex, if_true]
      exact stirs_closed _ _ _ _
    · simp only [hIndex, if_false]
      exact (fails_fail _ _).stirs
  · exact (embeds_octalEscape _).bind fun _ => embeds_pure ⟨rfl, rfl⟩

theorem embeds_escape (c : Char) :
    Embeds w n inside SameTerm (escape c) (escape c) := by
  refine embeds_get fun s t hSubject _ _ _ => ?_
  rw [hSubject]
  split
  · exact embeds_pure ⟨rfl, rfl⟩
  · exact embeds_pure ⟨rfl, rfl⟩
  · exact embeds_pure ⟨rfl, rfl⟩
  · rename_i code hCode _ _ _
    exact (embeds_codeEscape hCode).bind fun _ => embeds_pure ⟨rfl, rfl⟩
  · refine embeds_ite (fun _ => ?_) fun _ => ?_
    · refine (embeds_takeSome (by decide) (.inl rfl)).bind fun digits => ?_
      exact (embeds_octalEscape _).bind fun _ => embeds_pure ⟨rfl, rfl⟩
    · refine embeds_ite (fun _ => embeds_numberEscape c) fun _ => ?_
      exact (embeds_otherEscape c).bind fun _ => embeds_pure ⟨rfl, rfl⟩

/-! ## Character sets -/

theorem embeds_setToken (t : Token) :
    Embeds w n inside (fun a b => b = a) (setToken t) (setToken t) := by
  cases t with
  | plain c => exact embeds_pure rfl
  | escaped c => exact embeds_setEscape c

theorem embeds_range (low high : Token) (a b : SetEntry) :
    Embeds w n inside (fun a b => b = a) (range low high a b) (range low high a b) := by
  unfold range
  split
  · exact embeds_ite (fun _ => (fails_fail _ _).embeds _ _) fun _ => embeds_pure rfl
  · exact (fails_fail _ _).embeds _ _

theorem embeds_setEntries {start start' k k' : Nat} (entries : List SetEntry)
    (hFuel : n < k) (hMore : k ≤ k') :
    Embeds w n inside (fun a b => b = a) (setEntries start k entries)
      (setEntries start' k' entries) := by
  induction k generalizing n k' entries with
  | zero => omega
  | succ k ih =>
      obtain ⟨j, rfl⟩ : ∃ j, k' = j + 1 := ⟨k' - 1, by omega⟩
      refine embeds_take (fails_failAt _ _) fun low m hLess => ?_
      refine embeds_ite (fun _ => embeds_pure rfl) fun _ => ?_
      refine (embeds_setToken low).bind fun a => ?_
      refine embeds_accept (by decide) (ih _ (by omega) (by omega)) fun l hLower => ?_
      refine embeds_take (fails_failAt _ _) fun high i hLowest => ?_
      refine embeds_ite (fun _ => embeds_pure rfl) fun _ => ?_
      refine (embeds_setToken high).bind fun b => ?_
      exact (embeds_range low high a b).bind fun entry => ih _ (by omega) (by omega)

theorem embeds_charSet : Embeds w n inside SameTerm charSet charSet := by
  refine embeds_tell fun p q => embeds_accept (by decide) ?_ fun k _ => ?_
  all_goals
    refine embeds_get fun s t _ _ hLonger _ => ?_
    refine (embeds_setEntries [] (by omega) (by omega)).bind fun entries => ?_
    split
    · exact embeds_pure ⟨rfl, rfl⟩
    · exact embeds_pure ⟨rfl, rfl⟩

/-! ## Repetitions -/

theorem embeds_count (digits : Text) :
    Embeds w n inside (fun a b => b = a) (count digits) (count digits) := by
  refine embeds_when (fails_throw _) ?_
  exact embeds_when (fails_throw _) (embeds_pure rfl)

theorem embeds_repeatMode :
    Embeds w n inside (fun a b => b = a) repeatMode repeatMode := by
  refine embeds_accept (by decide) ?_ fun k _ => embeds_pure rfl
  exact embeds_accept (by decide) (embeds_pure rfl) fun k _ => embeds_pure rfl

/-- Items are read in the surroundings as in the fragment, in front of others,
and have no groups if those read before have none. -/
def SameItems (base items : List Term) (a b : List Term) : Prop :=
  b = a ++ base ∧ ((∀ t ∈ items, t.isUngrouped = true) →
    ∀ t ∈ a, t.isUngrouped = true)

theorem sameItems_cons {base items : List Term} {t : Term}
    (hTerm : t.isUngrouped = true) :
    SameItems base items (t :: items) (t :: (items ++ base)) := by
  refine ⟨rfl, fun hItems u hMem => ?_⟩
  rcases List.mem_cons.mp hMem with rfl | hMem
  · exact hTerm
  · exact hItems u hMem

/-- What is repeated is in the fragment: it is refused to begin with a sign of
repetition. -/
theorem embeds_repeatLast (base items : List Term) (position position' least : Nat)
    (greatest : Option Nat) :
    Embeds w n inside (SameItems base items) (repeatLast position least greatest items)
      (repeatLast position' least greatest (items ++ base)) := by
  cases items with
  | nil => exact (fails_failAt _ _).embeds _ _
  | cons item earlier =>
      refine embeds_when (fails_failAt _ _) ?_
      refine embeds_when (fails_failAt _ _) ?_
      refine embeds_repeatMode.bind fun mode =>
        embeds_pure ⟨rfl, fun hItems u hMem => ?_⟩
      rcases List.mem_cons.mp hMem with rfl | hMem
      · exact hItems item List.mem_cons_self
      · exact hItems u (List.mem_cons_of_mem _ hMem)

/-- The signs of limits, as far as they are there, and whether they are closed. -/
def limitSigns : Reader (Text × Text × Bool) := do
  let low ← takeAll isAsciiDigit
  let high ← if ← accept ',' then takeAll isAsciiDigit else pure low
  return (low, high, ← accept '\x7d')

/-- The limits that signs mean. -/
def limitValues (position : Nat) (low high : Text) :
    Reader (Option (Nat × Option Nat)) := do
  let least ← if low.isEmpty then pure 0 else count low
  if high.isEmpty then return some (least, none)
  let greatest ← count high
  if greatest < least then failAt .minExceedsMax position
  return some (least, some greatest)

theorem limits?_eq : limits? = (do
    if (← peek) == some (.plain '\x7d') then return none
    let here ← get
    let signs ← limitSigns
    if signs.2.2 then limitValues here.position signs.1 signs.2.1
    else
      set here
      return none) := by
  have hLook : ∀ f : Reading → Option Token → Reader (Option (Nat × Option Nat)),
      (get >>= fun here => peek >>= f here) = peek >>= fun o =>
        get >>= fun here => f here o :=
    fun f => rfl
  unfold limits? limitSigns limitValues
  rw [hLook]
  congr
  funext o
  by_cases hClosed : (o == some (.plain '\x7d')) = true
  · simp only [hClosed, if_true]
    rfl
  · simp only [hClosed, Bool.false_eq_true, if_false, bind_assoc]
    congr
    funext here
    congr
    funext low
    congr
    funext comma
    cases comma
    · simp only [Bool.false_eq_true, if_false, bind_assoc, pure_bind]
    · simp only [if_true, bind_assoc, pure_bind]

/-- The computation moves on in the text and changes nothing else. -/
def Moves (m : Reader α) : Prop :=
  ∀ s a after, m.run s = .ok (a, after) → ∃ count rest, after = s.moved count rest

theorem moves_pure (a : α) : Moves (pure a : Reader α) := by
  intro s b after hRun
  cases hRun
  exact ⟨0, s.rest, rfl⟩

theorem Moves.bind {m : Reader α} {f : α → Reader β} (hFirst : Moves m)
    (hSecond : ∀ a, Moves (f a)) : Moves (m >>= f) := by
  intro s c after hRun
  obtain ⟨a, mid, hRunFirst, hRunSecond⟩ := bind_run hRun
  obtain ⟨i, front, rfl⟩ := hFirst s a mid hRunFirst
  obtain ⟨j, rest, rfl⟩ := hSecond a _ c after hRunSecond
  exact ⟨i + j, rest, Reading.moved_moved s i j front rest⟩

theorem moves_takeIf (p : Char → Bool) : Moves (takeIf p) := by
  intro s o after hRun
  rcases takeIf_run p s with ⟨c, hFirst, -, hEq⟩ | ⟨-, hEq⟩
  · rw [hEq] at hRun
    obtain ⟨token, mid, hTake, hPure⟩ := bind_run hRun
    cases hPure
    obtain ⟨-, rest, -, -, rfl⟩ := take_run_of_first? hFirst hTake
    exact ⟨_, rest, rfl⟩
  · rw [hEq] at hRun
    cases hRun
    exact ⟨0, s.rest, rfl⟩

theorem moves_accept (c : Char) : Moves (accept c) := by
  rw [accept_eq]
  exact (moves_takeIf _).bind fun o => moves_pure _

theorem moves_takeSome (p : Char → Bool) (k : Nat) : Moves (takeSome p k) := by
  induction k with
  | zero => exact moves_pure []
  | succ k ih =>
      rw [takeSome_succ]
      refine (moves_takeIf p).bind fun o => ?_
      cases o with
      | none => exact moves_pure []
      | some c => exact ih.bind fun more => moves_pure _

theorem moves_takeAll (p : Char → Bool) : Moves (takeAll p) := by
  intro s a after hRun
  exact moves_takeSome p s.rest.length s a after hRun

theorem moves_limitSigns : Moves limitSigns := by
  refine (moves_takeAll _).bind fun low => (moves_accept _).bind fun comma => ?_
  cases comma
  · exact (moves_pure low).bind fun high =>
      (moves_accept _).bind fun closed => moves_pure _
  · exact (moves_takeAll _).bind fun high =>
      (moves_accept _).bind fun closed => moves_pure _

theorem embeds_limitSigns :
    Embeds w n inside (fun a b => b = a) limitSigns limitSigns := by
  have hClose : ∀ low high : Text, ∀ k, Embeds w k inside (fun a b => b = a)
      (do return (low, high, ← accept '\x7d') : Reader (Text × Text × Bool))
      (do return (low, high, ← accept '\x7d')) :=
    fun low high k => embeds_accept (by decide) (embeds_pure rfl) fun _ _ =>
      embeds_pure rfl
  refine (embeds_takeAll (by decide)).bind fun low => ?_
  refine embeds_accept (by decide) (hClose low low _) fun k _ => ?_
  exact (embeds_takeAll (by decide)).bind fun high => hClose low high k

theorem embeds_limitValues (position position' : Nat) (low high : Text) :
    Embeds w n inside (fun a b => b = a) (limitValues position low high)
      (limitValues position' low high) := by
  have hHigh : ∀ least, Embeds w n inside (fun a b => b = a)
      (do
        if high.isEmpty then return some (least, none)
        let greatest ← count high
        if greatest < least then failAt .minExceedsMax position
        return some (least, some greatest) : Reader (Option (Nat × Option Nat)))
      (do
        if high.isEmpty then return some (least, none)
        let greatest ← count high
        if greatest < least then failAt .minExceedsMax position'
        return some (least, some greatest)) := by
    intro least
    refine embeds_ite (fun _ => embeds_pure rfl) fun _ =>
      (embeds_count high).bind fun greatest => ?_
    exact embeds_when (fails_failAt _ _) (embeds_pure rfl)
  refine embeds_ite (fun _ => ?_) fun _ => ?_
  · simp only [pure_bind]
    exact hHigh 0
  · exact (embeds_count low).bind hHigh

/-- A computation that goes back where its first part was not enough. -/
theorem embeds_orBack {R : β → γ → Prop} {m : Reader α} {enough : α → Bool}
    {f : Reading → α → Reader β} {f' : Reading → α → Reader γ} {b : β}
    {c : γ} (hFirst : Embeds w n false (fun a b => b = a) m m) (hMoves : Moves m)
    (hSecond : ∀ s t a, Embeds w n inside R (f s a) (f' t a)) (hBack : R b c) :
    Embeds w n inside R
      (do
        let here ← get
        let a ← m
        if enough a then f here a
        else
          set here
          return b)
      (do
        let here ← get
        let a ← m
        if enough a then f' here a
        else
          set here
          return c) := by
  intro s answer after hSound hLength hRun
  rw [run_bind_of_ok (StateT.run_get s)] at hRun
  obtain ⟨a, mid, hRunFirst, hRunSecond⟩ := bind_run hRun
  obtain ⟨hOnward, hAgree⟩ := hFirst s a mid hSound hLength hRunFirst
  by_cases hEnough : enough a = true
  · rw [if_pos hEnough] at hRunSecond
    have hShort := Nat.le_trans hOnward.length_le hLength
    have hFurther := (hSecond s s a mid answer after hOnward.sound hShort hRunSecond).1
    refine ⟨hOnward.trans hFurther, fun hCalm hInside t hAround => ?_⟩
    obtain ⟨b, midFinal, hOther, hMid, rfl⟩ := hAgree (hFurther.calm hCalm)
      (absurd · Bool.false_ne_true) t hAround
    have hAgreeFurther :=
      (hSecond s t b mid answer after hOnward.sound hShort hRunSecond).2
    obtain ⟨d, final, hOtherFurther, hFinal, hRel⟩ :=
      hAgreeFurther hCalm hInside midFinal hMid
    refine ⟨d, final, ?_, hFinal, hRel⟩
    rw [run_bind_of_ok (StateT.run_get t), run_bind_of_ok hOther, if_pos hEnough,
      hOtherFurther]
  · rw [if_neg hEnough] at hRunSecond
    cases hRunSecond
    refine ⟨.refl hSound, fun hCalm hInside t hAround => ?_⟩
    -- the first part moved on, so it was calm as well
    obtain ⟨count, rest, rfl⟩ := hMoves s a mid hRunFirst
    obtain ⟨d, midFinal, hOther, -, rfl⟩ :=
      hAgree ⟨hCalm.flags, hCalm.groups, hCalm.conditions⟩
        (absurd · Bool.false_ne_true) t hAround
    refine ⟨c, t, ?_, hAround, hBack⟩
    rw [run_bind_of_ok (StateT.run_get t), run_bind_of_ok hOther, if_neg hEnough]
    rfl

theorem embeds_limits : Embeds w n inside (fun a b => b = a) limits? limits? := by
  rw [limits?_eq]
  have hRead : Embeds w n inside (fun a b => b = a)
      (do
        let here ← get
        let signs ← limitSigns
        if signs.2.2 then limitValues here.position signs.1 signs.2.1
        else
          set here
          return none)
      (do
        let here ← get
        let signs ← limitSigns
        if signs.2.2 then limitValues here.position signs.1 signs.2.1
        else
          set here
          return none) :=
    embeds_orBack embeds_limitSigns moves_limitSigns
      (fun s t signs => embeds_limitValues _ _ _ _) rfl
  refine embeds_peek (fun o => embeds_ite (fun _ => embeds_pure rfl) fun _ => hRead) ?_
  exact hRead

/-- An opening brace begins limits, or it is a character. -/
theorem embeds_brace (base items : List Term) :
    Embeds w n inside (SameItems base items) (brace items) (brace (items ++ base)) := by
  refine embeds_tell fun p q => embeds_limits.bind fun limits => ?_
  cases limits with
  | none => exact embeds_pure (sameItems_cons rfl)
  | some limits => exact embeds_repeatLast base items _ _ _ _

/-! ## Flags -/

theorem bit_ne_zero (flag : Flag) (flags : Flags) : flags.union flag.bit ≠ 0 := by
  intro hZero
  have hNone : flag.bit = 0 := (BitVec.or_eq_zero_iff.mp hZero).2
  cases flag <;> cases hNone

/-- Flags that are turned on by their letters are not none. -/
theorem embeds_flagsOn {k k' : Nat} (c : Char) (on : Flags) (hFuel : n < k)
    (hMore : k ≤ k') :
    Embeds w n inside (fun a b => b = a ∧
      ((Flags.ofLetter? c).isSome = true → a.1 ≠ 0))
      (flagsOn k c on) (flagsOn k' c on) := by
  induction k generalizing n k' c on with
  | zero => omega
  | succ k ih =>
      obtain ⟨j, rfl⟩ : ∃ j, k' = j + 1 := ⟨k' - 1, by omega⟩
      unfold flagsOn
      cases hLetter : Flags.ofLetter? c with
      | none => exact embeds_pure ⟨rfl, by simp⟩
      | some flag =>
          refine embeds_get fun s t hSubject _ _ hShort => ?_
          rw [hSubject]
          split
          · exact ((fails_fail _ _).bind _).embeds _ _
          refine embeds_when (fails_fail _ _) ?_
          refine embeds_take (fails_fail _ _) fun token m hLess => ?_
          cases token with
          | escaped d => exact (fails_fail _ _).embeds _ _
          | plain d =>
              refine embeds_ite (fun _ =>
                embeds_pure ⟨rfl, fun _ => bit_ne_zero flag on⟩)
                fun _ => ?_
              refine embeds_ite (fun hOther => ?_) fun _ => ?_
              · exact (ih d _ (by omega) (by omega)).mono fun a b hSame =>
                  ⟨hSame.1, fun _ => hSame.2 hOther⟩
              · exact embeds_ite (fun _ => (fails_fail _ _).embeds _ _) fun _ =>
                  (fails_fail _ _).embeds _ _

theorem embeds_flagLetter (expected : String) (t : Token) :
    Embeds w n inside (fun a b => b = a) (flagLetter expected (some t))
      (flagLetter expected (some t)) := by
  cases t with
  | escaped c => exact (fails_fail _ _).embeds _ _
  | plain c =>
      refine embeds_ite (fun _ => embeds_pure rfl) fun _ => ?_
      exact embeds_ite (fun _ => (fails_fail _ _).embeds _ _) fun _ =>
        (fails_fail _ _).embeds _ _

theorem fails_flagLetter (expected : String) : Fails (flagLetter expected none) :=
  fails_fail _ _

theorem embeds_flagsOff {k k' : Nat} (c : Char) (off : Flags) (hFuel : n < k)
    (hMore : k ≤ k') :
    Embeds w n inside (fun a b => b = a) (flagsOff k c off) (flagsOff k' c off) := by
  induction k generalizing n k' c off with
  | zero => omega
  | succ k ih =>
      obtain ⟨j, rfl⟩ : ∃ j, k' = j + 1 := ⟨k' - 1, by omega⟩
      unfold flagsOff
      split
      · exact embeds_pure rfl
      · refine embeds_when (fails_fail _ _) ?_
        refine embeds_take ((fails_flagLetter _).bind _) fun token m hLess => ?_
        refine embeds_ite (fun _ => embeds_pure rfl) fun _ => ?_
        exact (embeds_flagLetter ":" token).bind fun d => ih d _ (by omega) (by omega)

/-- Flags for the whole expression are turned on in both texts; if they were
some, the state is not calm. -/
theorem embeds_turnOn (on : Flags) :
    Embeds w n inside (fun a b => b = a ∧ on = 0)
      (modify fun s => { s with flags := s.flags.union on } : Reader PUnit)
      (modify fun s => { s with flags := s.flags.union on }) := by
  intro s a after hSound hLength hRun
  cases hRun
  refine ⟨⟨⟨hSound.rest_ne, hSound.whole, hSound.names_lt,
    hSound.conditions_pos⟩, rfl, Nat.le_refl _, fun hCalm =>
      ⟨?_, hCalm.groups, hCalm.conditions⟩⟩, ?_⟩
  · exact (BitVec.or_eq_zero_iff.mp hCalm.flags).1
  · intro hCalm hInside t hAround
    refine ⟨(), _, rfl, ⟨hAround.rest, hAround.groups, hAround.subject, ?_,
      hAround.names, hAround.conditions⟩, rfl,
      (BitVec.or_eq_zero_iff.mp hCalm.flags).2⟩
    show t.flags.union on = s.flags.union on
    rw [hAround.flags]

/-- What follows the flags that are turned on; `stop` is the character that
ended them. -/
def flagsBehind (size : Nat) (on : Flags) (stop : Char) :
    Reader (Option (Flags × Flags)) := do
  if stop == ')' then
    modify fun s => { s with flags := s.flags.union on }
    return none
  if Flags.meets on Flags.wholeOnly then fail .wholeFlagOn 1
  let off ← if stop == '-' then do
    flagsOff size (← flagLetter "flag" (← take)) 0 else pure 0
  if Flags.meets off Flags.wholeOnly then fail .wholeFlagOff 1
  if Flags.meets on off then fail .onAndOff 1
  return some (on, off)

theorem inlineFlags_eq (c : Char) : inlineFlags c = (do
    let size := (← get).rest.length + 1
    if c == '-' then flagsBehind size 0 '-'
    else
      let flags ← flagsOn size c 0
      flagsBehind size flags.1 flags.2) := rfl

/-- Flags in a calm fragment belong to a group: where there are some, they do
not hold for the whole expression. -/
theorem embeds_flagsBehind {size size' : Nat} (on : Flags) (stop : Char)
    (hFuel : n < size) (hMore : size ≤ size') :
    Embeds w n inside (fun a b => b = a ∧
      (on ≠ 0 ∨ stop ≠ ')' → a.isSome = true))
      (flagsBehind size on stop) (flagsBehind size' on stop) := by
  refine embeds_ite (fun hStop => ?_) fun _ => ?_
  · refine (embeds_turnOn on).bindKnown fun _ => embeds_pure fun hZero =>
      ⟨rfl, fun hSome => ?_⟩
    rcases hSome with hOn | hOther
    · exact absurd hZero hOn
    · exact absurd (beq_iff_eq.mp hStop) hOther
  · refine embeds_when (fails_fail _ _) ?_
    have hEnd : ∀ off : Flags, ∀ m, Embeds w m inside
        (fun a b => b = a ∧ (on ≠ 0 ∨ stop ≠ ')' → a.isSome = true))
        (do
          if Flags.meets off Flags.wholeOnly then fail .wholeFlagOff 1
          if Flags.meets on off then fail .onAndOff 1
          return some (on, off) : Reader (Option (Flags × Flags)))
        (do
          if Flags.meets off Flags.wholeOnly then fail .wholeFlagOff 1
          if Flags.meets on off then fail .onAndOff 1
          return some (on, off)) := by
      intro off m
      refine embeds_when (fails_fail _ _) ?_
      exact embeds_when (fails_fail _ _) (embeds_pure ⟨rfl, fun _ => rfl⟩)
    refine embeds_ite (fun _ => ?_) fun _ => ?_
    · refine embeds_take ((fails_flagLetter _).bind _) fun token m hLess => ?_
      refine (embeds_flagLetter _ token).bind fun d => ?_
      exact (embeds_flagsOff d 0 (by omega) hMore).bind fun off => hEnd off m
    · simp only [pure_bind]
      exact hEnd 0 n

theorem embeds_inlineFlags {c : Char}
    (hLetter : c = '-' ∨ (Flags.ofLetter? c).isSome = true) :
    Embeds w n inside (fun a b => b = a ∧ a.isSome = true) (inlineFlags c)
      (inlineFlags c) := by
  rw [inlineFlags_eq]
  refine embeds_get fun s t _ _ hLonger _ => ?_
  refine embeds_ite (fun _ => ?_) fun hMinus => ?_
  · refine (embeds_flagsBehind 0 '-' (by omega) (by omega)).mono fun a b hSame => ?_
    exact ⟨hSame.1, hSame.2 (.inr (by decide))⟩
  · have hFlag : (Flags.ofLetter? c).isSome = true :=
      hLetter.resolve_left fun hOther => hMinus (beq_iff_eq.mpr hOther)
    refine (embeds_flagsOn c 0 (by omega) (by omega)).bindKnown fun flags => ?_
    refine (embeds_flagsBehind _ _ (by omega) (by omega)).mono fun a b hSame hOn => ?_
    exact ⟨hSame.1, hSame.2 (.inl (hOn hFlag))⟩

/-- An opening is read in the surroundings as in the fragment, and what is
already complete has no group. -/
def SameOpening (a b : Opening) : Prop :=
  b = a ∧ ∀ t, a = .complete (some t) → t.isUngrouped = true

/-- Flags for the whole expression may stand in the one text and not in the
other; in a calm fragment there are none. -/
theorem embeds_flagsOpening {c : Char} (start start' : Nat) (atStart atStart' : Bool)
    (hLetter : c = '-' ∨ (Flags.ofLetter? c).isSome = true) :
    Embeds w n inside SameOpening (flagsOpening c start atStart)
      (flagsOpening c start' atStart') := by
  refine (embeds_inlineFlags hLetter).bindIf (fun flags => ?_) fun flags hSome => ?_
  · cases flags with
    | some flags => exact steps_of_eq fun s a after hRun => by cases hRun; rfl
    | none =>
        cases atStart
        · exact ((fails_failAt _ _).bind _).steps
        · exact steps_of_eq fun s a after hRun => by cases hRun; rfl
  · cases flags with
    | some flags => exact embeds_pure ⟨rfl, by simp⟩
    | none => cases hSome

/-! ## Comments -/

theorem embeds_comment {start start' k k' : Nat} (hFuel : n < k) (hMore : k ≤ k') :
    Embeds w n inside (fun a b => b = a) (comment start k) (comment start' k') := by
  induction k generalizing n k' with
  | zero => omega
  | succ k ih =>
      obtain ⟨j, rfl⟩ : ∃ j, k' = j + 1 := ⟨k' - 1, by omega⟩
      refine embeds_take (fails_failAt _ _) fun token m hLess => ?_
      exact embeds_ite (fun _ => embeds_pure rfl) fun _ => ih (by omega) (by omega)

/-! ## Names -/

theorem embeds_nameUntil (terminator : Char) (what : String) {k k' : Nat} (name : Text)
    (hFuel : n < k) (hMore : k ≤ k') :
    Embeds w n inside (fun a b => b = a) (nameUntil terminator what k name)
      (nameUntil terminator what k' name) := by
  induction k generalizing n k' name with
  | zero => omega
  | succ k ih =>
      obtain ⟨j, rfl⟩ : ∃ j, k' = j + 1 := ⟨k' - 1, by omega⟩
      refine embeds_take ?_ fun token m hLess => ?_
      · dsimp only
        split
        · exact fails_fail _ _
        · exact fails_fail _ _
      · refine embeds_ite (fun _ => ?_) fun _ => ih _ (by omega) (by omega)
        exact embeds_ite (fun _ => (fails_fail _ _).embeds _ _) fun _ => embeds_pure rfl

theorem embeds_name (terminator : Char) (what : String) :
    Embeds w n inside (fun a b => b = a) (name terminator what)
      (name terminator what) :=
  embeds_get fun _ _ _ _ hLonger _ =>
    embeds_nameUntil terminator what [] (by omega) (by omega)

theorem steps_name (terminator : Char) (what : String) :
    Steps n (name terminator what) := by
  have hSame : Embeds .nothing n false (fun a b => b = a) (name terminator what)
      (name terminator what) := embeds_name terminator what
  exact hSame.steps

theorem embeds_checkName (name : Text) :
    Embeds w n inside (fun a b => b = a) (checkName name) (checkName name) :=
  embeds_ite (fun _ => embeds_pure rfl) fun _ => (fails_fail _ _).embeds _ _

/-- A name that is known is the name of a group. -/
theorem stirs_groupNamed {name : Text} {f : Option Nat → Reader α}
    (hUnknown : Fails (f none)) (hKnown : ∀ index, Steps n (f (some index))) :
    Stirs n (groupNamed? name >>= f) := by
  intro s a after hSound hLength hRun
  obtain ⟨o, mid, hNamed, hBehind⟩ := bind_run hRun
  cases hNamed
  cases hLookup : s.names.lookup name with
  | none =>
      rw [hLookup] at hBehind
      exact absurd hBehind (hUnknown s a after)
  | some index =>
      rw [hLookup] at hBehind
      have hOnward := hKnown index s a after hSound hLength hBehind
      refine ⟨hOnward, fun hCalm => ?_⟩
      rw [(hOnward.calm hCalm).names hSound] at hLookup
      cases hLookup

theorem stirs_namedReference : Stirs n namedReference := by
  refine (steps_name _ _).thenStirs fun name => ?_
  refine Steps.thenStirs (fun s u after hSound _ hRun => ?_) fun _ =>
    stirs_groupNamed (fails_fail _ _) fun index => (stirs_closed _ _ _ _).steps
  by_cases hName : isName name = true
  · rw [checkName, if_pos hName] at hRun
    cases hRun
    exact .refl hSound
  · rw [checkName, if_neg hName] at hRun
    exact absurd hRun (fails_fail _ _ s u after)

theorem embeds_extension : Embeds w n inside SameOpening extension extension := by
  refine embeds_accept (by decide) ?_ fun k _ => ?_
  · refine embeds_accept (by decide) ?_ fun k _ => ?_
    · refine embeds_take (fails_fail _ _) fun token m _ => ?_
      exact (fails_fail _ _).embeds _ _
    · exact (stirs_namedReference.bind fun t => steps_of_eq fun s a after hRun => by
        cases hRun
        rfl).embeds _ _
  · refine (embeds_name _ _).bind fun name => (embeds_checkName name).bind fun _ => ?_
    exact embeds_pure ⟨rfl, by simp⟩

/-- Keeps a condition by its number, unless it is kept already. -/
theorem stirs_keepCondition {index : Nat} (place : Nat) (hIndex : 0 < index) :
    Stirs n (modify fun s =>
      if (s.conditions.lookup index).isSome then s
      else { s with conditions := s.conditions ++ [(index, place)] } :
          Reader PUnit) := by
  intro s u after hSound _ hRun
  by_cases hKept : (s.conditions.lookup index).isSome = true
  · have hSame : after = s := by
      cases hRun
      exact if_pos hKept
    subst hSame
    refine ⟨.refl hSound, fun hCalm => ?_⟩
    rw [hCalm.conditions] at hKept
    cases hKept
  · have hMore : after =
        { s with conditions := s.conditions ++ [(index, place)] } := by
      cases hRun
      exact if_neg hKept
    subst hMore
    have hNew :
        ¬ ({ s with conditions := s.conditions ++ [(index, place)] } : Reading).Calm :=
      fun hCalm =>
        List.append_ne_nil_of_right_ne_nil _ (List.cons_ne_nil _ _) hCalm.conditions
    refine ⟨⟨⟨hSound.rest_ne, hSound.whole, hSound.names_lt, ?_⟩, rfl,
      Nat.le_refl _, fun hCalm => absurd hCalm hNew⟩, hNew⟩
    intro c hMem
    rcases List.mem_append.mp hMem with hMem | hMem
    · exact hSound.conditions_pos c hMem
    · rw [List.mem_singleton.mp hMem]
      exact hIndex

theorem steps_pure (a : α) : Steps n (pure a : Reader α) :=
  steps_of_eq fun s b after hRun => by
    cases hRun
    rfl

theorem steps_tell : Steps n tell :=
  steps_of_eq fun s p after hRun => by
    cases hRun
    rfl

/-- A condition asks for a group. -/
theorem stirs_condition (name : Text) : Stirs n (condition name) := by
  unfold condition
  split
  · exact stirs_groupNamed (fails_fail _ _) fun index => steps_pure index
  · split
    · exact (fails_fail _ _).stirs
    · rename_i index hNonzero hNumber
      have hIndex : 0 < index := Nat.pos_of_ne_zero hNonzero
      split
      · exact ((fails_fail _ _).bind _).stirs
      · exact steps_tell.thenStirs fun p =>
          (stirs_keepCondition _ hIndex).bind fun _ => steps_pure index
    · exact (fails_fail _ _).stirs

end Embeds

end Reader

end Retag.Regex

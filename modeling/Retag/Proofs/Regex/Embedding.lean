import Retag.Proofs.Regex.Elements

/-!
# A fragment inside a longer expression

The items of a fragment are read in its surroundings as they are read on its
own: the reader comes to the end of the fragment in the state in which it
ended there, with the same terms, and goes on with what stands behind.

A group inside the fragment holds alternatives, which hold items, so the
functions for these call each other, with a count that goes down.  The proof
is by induction on the count of the fragment on its own; it is enough to know
that it allows two calls for every character left.  At the top of the fragment
the end of the text is where the surroundings go on, so its sequence of items
does not agree with the longer one as a whole.  There the items are followed
one after the other.

## Main results

* `sequencesEmbed`: sequences and alternatives agree inside a fragment.
* `item_embedded`, `items_embedded`: the next item of a fragment, and all of
  them with what is read behind them.
-/

namespace Retag.Regex

open Retag.Text

namespace Reader

section Embeds

variable {α β γ : Type} {w : Surroundings} {n : Nat} {inside : Bool}

/-! ## Groups -/

theorem embeds_close (start start' : Nat) :
    Embeds w n inside (fun a b => b = a) (close start) (close start') :=
  embeds_accept (by decide) ((fails_failAt _ _).embeds _ _) fun _ _ => embeds_pure rfl

theorem steps_close (start : Nat) : Steps n (close start) := by
  have hSame : Embeds .nothing n false (fun a b => b = a) (close start) (close start) :=
    embeds_close start start
  exact hSame.steps

theorem needsText_close (start : Nat) (f : Unit → Reader α) :
    NeedsText (close start >>= f) := by
  intro s a after hRun hNil
  obtain ⟨u, mid, hClose, -⟩ := bind_run hRun
  have hAbsent : (accept ')').run s = .ok (false, s) :=
    accept_run_of_ne (by simp [hNil, Token.first?])
  rw [close, run_bind_of_ok hAbsent] at hClose
  exact fails_failAt _ _ s u mid hClose

theorem steps_accept {c : Char} (hSign : c ≠ '(') : Steps n (accept c) := by
  have hSame : Embeds .nothing n false (fun a b => b = a) (accept c >>= pure)
      (accept c >>= pure) :=
    embeds_accept hSign (embeds_pure rfl) fun _ _ => embeds_pure rfl
  rw [bind_pure] at hSame
  exact hSame.steps

theorem steps_peek : Steps n peek :=
  steps_of_eq fun s o after hRun => by
    cases hRun
    rfl

/-- A conditional group has a condition. -/
theorem stirs_conditional {branch : Reader Term} (start : Nat)
    (hBranch : Steps n branch) :
    Stirs n (conditional branch start) := by
  refine (steps_name _ _).thenStirs fun name =>
    (stirs_condition name).bind fun index => ?_
  refine (steps_of_eq fun s u after hRun => checkLookBehind_run hRun).bind fun _ => ?_
  refine hBranch.bind fun yes => (steps_accept (by decide)).bind fun more => ?_
  have hClose : ∀ no, Steps n (do
      close start
      return .whenSet index yes no : Reader Term) :=
    fun no => (steps_close start).bind fun _ => steps_pure _
  cases more
  · exact (steps_pure Term.empty).bind hClose
  · refine hBranch.bind fun no => steps_peek.bind fun o => ?_
    by_cases hBar : (o == some (.plain '|')) = true
    · simp only [hBar, if_true]
      exact ((fails_fail _ _).bind _).steps
    · simp only [hBar]
      exact (steps_pure no).bind hClose

/-- What a look-behind counts is changed where it begins and where it ends, in
each text if it is counted there. -/
theorem embeds_count_behind {R : α → β → Prop} {p q : Prop} [Decidable p]
    [Decidable q] {f g : Reading → Reading} {m : PUnit → Reader α}
    {m' : PUnit → Reader β}
    (hFirst : ∀ s, ∃ behind, f s = { s with behind := behind })
    (hSecond : ∀ t, ∃ behind, g t = { t with behind := behind })
    (hBehind : Embeds w n inside R (m ()) (m' ())) :
    Embeds w n inside R (if p then modify f >>= m else m ())
      (if q then modify g >>= m' else m' ()) := by
  have hSame : ∀ s : Reading, ∃ behind, id s = { s with behind := behind } :=
    fun s => ⟨s.behind, rfl⟩
  by_cases hp : p
  · by_cases hq : q
    · rw [if_pos hp, if_pos hq]
      exact (embeds_modify hFirst hSecond).bind fun _ => hBehind
    · rw [if_pos hp, if_neg hq]
      exact (embeds_modify hFirst hSame).bind fun _ => hBehind
  · by_cases hq : q
    · rw [if_neg hp, if_pos hq]
      exact (embeds_modify hSame hSecond).bind fun _ => hBehind
    · rw [if_neg hp, if_neg hq]
      exact hBehind

/-- Contents of a group, read in the surroundings as in the fragment if some of
it is left behind them. -/
def ReadsInside (w : Surroundings) (n : Nat) (m m' : Reader Term) : Prop :=
  Embeds w n true SameTerm m m'

theorem embeds_look {alternatives alternatives' : Reader Term} (start start' : Nat)
    (behind negated : Bool) (hBody : ReadsInside w n alternatives alternatives') :
    Embeds w n inside SameTerm (look alternatives start behind negated)
      (look alternatives' start' behind negated) := by
  refine embeds_get fun s t _ _ _ hShort => ?_
  refine embeds_count_behind (fun s => ⟨_, rfl⟩) (fun t => ⟨_, rfl⟩) ?_
  refine (hBody.shorter hShort).bindText (fun body => ?_) fun body => ?_
  · cases behind
    · exact needsText_close start _
    · intro u a after hRun
      obtain ⟨v, mid, hModify, hClose⟩ := bind_run hRun
      cases hModify
      have hText := needsText_close start _ _ a after hClose
      exact hText
  · refine embeds_count_behind (fun s => ⟨_, rfl⟩) (fun t => ⟨_, rfl⟩) ?_
    refine (embeds_close _ _).bind fun _ => embeds_pure fun hTerm => ⟨rfl, hTerm⟩

theorem embeds_lookBehind {alternatives alternatives' : Reader Term}
    (start start' : Nat) (hBody : ReadsInside w n alternatives alternatives') :
    Embeds w n inside SameTerm (lookBehind alternatives start)
      (lookBehind alternatives' start') := by
  refine embeds_take (fails_fail _ _) fun token k hLess => ?_
  have hShorter : ReadsInside w k alternatives alternatives' := hBody.shorter (by omega)
  refine embeds_ite (fun _ => embeds_look start start' true false hShorter) fun _ => ?_
  refine embeds_ite (fun _ => embeds_look start start' true true hShorter) fun _ => ?_
  exact (fails_fail _ _).embeds _ _

theorem embeds_opening {alternatives branch alternatives' branch' : Reader Term}
    (start start' : Nat) (atStart atStart' : Bool)
    (hBody : ReadsInside w n alternatives alternatives')
    (hBranch : ReadsInside w n branch branch') :
    Embeds w n inside SameOpening (opening alternatives branch start atStart)
      (opening alternatives' branch' start' atStart') := by
  refine embeds_accept (by decide) (embeds_pure ⟨rfl, by simp⟩) fun m hMark => ?_
  refine embeds_take (fails_fail _ _) fun token k hLess => ?_
  have hShorter : ReadsInside w k alternatives alternatives' := hBody.shorter (by omega)
  have hComplete : ∀ {m m' : Reader Term}, Embeds w k inside SameTerm m m' →
      Embeds w k inside SameOpening (do return .complete (some (← m)))
        (do return .complete (some (← m'))) := by
    intro m m' hTerm
    refine Embeds.bindKnown hTerm fun t => embeds_pure fun hKnown =>
      ⟨rfl, fun u hSame => ?_⟩
    cases hSame
    exact hKnown
  dsimp only
  split
  · exact embeds_extension
  · exact embeds_pure ⟨rfl, by simp⟩
  · refine embeds_get fun s t _ _ hLonger _ => ?_
    refine (embeds_comment (by omega) (by omega)).bind fun _ => ?_
    exact embeds_pure ⟨rfl, by simp⟩
  · exact hComplete (embeds_look start start' false false hShorter)
  · exact hComplete (embeds_look start start' false true hShorter)
  · exact hComplete (embeds_lookBehind start start' hShorter)
  · have hCondition : Stirs k (conditional branch start) :=
      stirs_conditional start (hBranch.steps.shorter (by omega))
    exact (hCondition.bind fun t => steps_pure _).embeds _ _
  · exact embeds_pure ⟨rfl, by simp⟩
  · exact embeds_flagsOpening start start' atStart atStart' (.inl rfl)
  · refine embeds_ite (fun hLetter => ?_) fun _ => (fails_fail _ _).embeds _ _
    exact embeds_flagsOpening start start' atStart atStart' (.inr hLetter)
  · exact (fails_fail _ _).embeds _ _

/-- A group that captures is counted, and its number is not that of the whole. -/
theorem stirs_openGroup {name : Option Text} {f : Nat → Reader α}
    (hBehind : ∀ index, 0 < index → Steps n (f index)) :
    Stirs n (openGroup name >>= f) := by
  intro s a after hSound hLength hRun
  obtain ⟨index, mid, hOpen, hRest⟩ := bind_run hRun
  have hLengths : 0 < s.groups.length :=
    Nat.lt_of_le_of_lt (Nat.zero_le _) hSound.names_lt
  have hWhole : (s.groups ++ [none]).head? = some none := by
    rw [List.head?_append, hSound.whole]
    rfl
  have hNumber : index = s.groups.length ∧ mid.rest = s.rest ∧
    mid.subject = s.subject ∧
      mid.conditions = s.conditions ∧ mid.groups = s.groups ++ [none] ∧
      mid.names.length ≤ s.names.length + 1 := by
    obtain ⟨t, mid', hGet, hOpen⟩ := bind_run hOpen
    cases hGet
    cases name with
    | none =>
        cases hOpen
        exact ⟨rfl, rfl, rfl, rfl, rfl, Nat.le_succ _⟩
    | some name =>
        dsimp only at hOpen
        split at hOpen
        · exact absurd hOpen ((fails_fail _ _).bind _ s index mid)
        · cases hOpen
          exact ⟨rfl, rfl, rfl, rfl, rfl, Nat.le_refl _⟩
  obtain ⟨rfl, hSame, hSubject, hConditions, hGroups, hNames⟩ := hNumber
  have hNew : ¬ mid.Calm := fun hCalm => by
    have hOne := congrArg List.length (hGroups.symm.trans hCalm.groups)
    simp only [List.length_append, List.length_singleton] at hOne
    omega
  have hOnward : s.Onward mid := by
    refine ⟨⟨?_, ?_, ?_, ?_⟩, hSubject, Nat.le_of_eq (by rw [hSame]),
      fun h => absurd h hNew⟩
    · rw [hSame]
      exact hSound.rest_ne
    · rw [hGroups]
      exact hWhole
    · rw [hGroups, List.length_append, List.length_singleton]
      have hLess := hSound.names_lt
      omega
    · rw [hConditions]
      exact hSound.conditions_pos
  have hFurther := hBehind _ hLengths mid a after hOnward.sound
    (Nat.le_trans hOnward.length_le hLength) hRest
  exact ⟨hOnward.trans hFurther, fun h => hNew (hFurther.calm h)⟩

theorem steps_closeGroup {index : Nat} (body : Term) (hIndex : 0 < index) :
    Steps n (closeGroup index body) := by
  intro s u after hSound _ hRun
  cases hRun
  obtain ⟨more, hGroups⟩ : ∃ more, s.groups = none :: more := by
    have hWhole := hSound.whole
    cases hCases : s.groups with
    | nil =>
        rw [hCases] at hWhole
        cases hWhole
    | cons first more =>
        rw [hCases] at hWhole
        cases hWhole
        exact ⟨more, rfl⟩
  obtain ⟨k, rfl⟩ : ∃ k, index = k + 1 := ⟨index - 1, by omega⟩
  refine ⟨⟨hSound.rest_ne, ?_, ?_, hSound.conditions_pos⟩, rfl, Nat.le_refl _,
    fun hCalm => ?_⟩
  · show (s.groups.set (k + 1) _).head? = some none
    rw [hGroups]
    rfl
  · show s.names.length < (s.groups.set (k + 1) _).length
    rw [List.length_set]
    exact hSound.names_lt
  · have hSet : s.groups.set (k + 1) (some (body.width s.groupWidth)) = [none] :=
      hCalm.groups
    refine ⟨hCalm.flags, ?_, hCalm.conditions⟩
    rw [hGroups, List.set_cons_succ] at hSet
    have hNil := (List.cons.inj hSet).2
    rw [List.set_eq_nil_iff] at hNil
    rw [hGroups, hNil]

/-- A group is read in the surroundings as in the fragment; in a calm fragment
it captures nothing. -/
theorem embeds_group {alternatives branch alternatives' branch' : Bool → Reader Term}
    (verbose atStart atStart' : Bool)
    (hBody : ∀ v, ReadsInside w n (alternatives v) (alternatives' v))
    (hBranch : ∀ v, ReadsInside w n (branch v) (branch' v)) :
    Embeds w n inside (fun a b => b = a ∧ ∀ t, a = some t → t.isUngrouped = true)
      (group alternatives branch verbose atStart)
      (group alternatives' branch' verbose atStart') := by
  refine embeds_tell fun p q => ?_
  refine Embeds.bindKnown (embeds_opening _ _ atStart atStart' (hBody verbose)
    (hBranch verbose)) fun o => ?_
  have hContents : ∀ (v : Bool) (wrap : Term → Term),
      (∀ t, t.isUngrouped = true → (wrap t).isUngrouped = true) →
      Embeds w n inside (fun a b => b = a ∧ ∀ t, a = some t →
        t.isUngrouped = true)
        (do
          let body ← alternatives v
          close (p - 1)
          return some (wrap body))
        (do
          let body ← alternatives' v
          close (q - 1)
          return some (wrap body)) := by
    intro v wrap hWrap
    refine (hBody v).bindText (fun body => needsText_close _ _) fun body => ?_
    refine (embeds_close _ _).bind fun _ => embeds_pure fun hTerm =>
      ⟨rfl, fun t hSame => ?_⟩
    cases hSame
    exact hWrap body hTerm
  cases o with
  | complete term =>
      refine embeds_pure fun hKnown => ⟨rfl, fun t hSame => ?_⟩
      exact hKnown t (by rw [hSame])
  | capture name =>
      refine (stirs_openGroup fun index hIndex => ?_).embeds _ _
      refine (hBody verbose).steps.bind fun body => (steps_close _).bind fun _ => ?_
      exact (steps_closeGroup body hIndex).bind fun _ => steps_pure _
  | plain on off =>
      exact (hContents _ (.group none on off) fun t hTerm => hTerm).mono
        fun a b hSame _ => hSame
  | atomic =>
      exact (hContents verbose .atomic fun t hTerm => hTerm).mono
        fun a b hSame _ => hSame

/-! ## Items -/

theorem embeds_item {alternatives branch alternatives' branch' : Bool → Reader Term}
    (base items : List Term) (verbose first first' : Bool) (token : Token)
    (hBody : ∀ v, ReadsInside w n (alternatives v) (alternatives' v))
    (hBranch : ∀ v, ReadsInside w n (branch v) (branch' v)) :
    Embeds w n inside (SameItems base items)
      (item alternatives branch verbose first items token)
      (item alternatives' branch' verbose first' (items ++ base) token) := by
  have hTerm : ∀ {m m' : Reader Term}, Embeds w n inside SameTerm m m' →
      Embeds w n inside (SameItems base items) (do return (← m) :: items)
        (do return (← m') :: (items ++ base)) :=
    fun hSame => Embeds.bindKnown hSame fun t => embeds_pure fun hKnown =>
      sameItems_cons hKnown
  refine embeds_tell fun p q => ?_
  dsimp only
  split
  · exact hTerm (embeds_escape _)
  · exact hTerm embeds_charSet
  · exact embeds_pure (sameItems_cons rfl)
  · exact embeds_pure (sameItems_cons rfl)
  · exact embeds_pure (sameItems_cons rfl)
  · exact embeds_repeatLast base items _ _ _ _
  · exact embeds_repeatLast base items _ _ _ _
  · exact embeds_repeatLast base items _ _ _ _
  · exact embeds_brace base items
  · refine (embeds_group verbose _ _ hBody hBranch).bindKnown fun o => ?_
    cases o with
    | none => exact embeds_pure fun _ => ⟨rfl, fun hItems => hItems⟩
    | some t => exact embeds_pure fun hKnown => sameItems_cons (hKnown t rfl)
  · exact embeds_pure (sameItems_cons rfl)

/-! ## Sequences of items -/

theorem embeds_commentLine {k k' : Nat} (hFuel : n < k) (hMore : k ≤ k') :
    Embeds w n true (fun a b => b = a) (commentLine k) (commentLine k') := by
  induction k generalizing n k' with
  | zero => omega
  | succ k ih =>
      obtain ⟨j, rfl⟩ : ∃ j, k' = j + 1 := ⟨k' - 1, by omega⟩
      refine embeds_takeInside (steps_pure ()) fun token m hLess => ?_
      exact embeds_ite (fun _ => embeds_pure rfl) fun _ => ih (by omega) (by omega)

theorem isUngrouped_ofReversed {items : List Term}
    (hItems : ∀ t ∈ items, t.isUngrouped = true) :
    (Term.ofReversed items).isUngrouped = true := by
  induction items with
  | nil => rfl
  | cons t items ih =>
      have hTail := ih fun u hMem => hItems u (List.mem_cons_of_mem t hMem)
      have hHead := hItems t List.mem_cons_self
      cases items with
      | nil => exact hHead
      | cons u items =>
          show ((Term.ofReversed (u :: items)).isUngrouped && t.isUngrouped) = true
          rw [hTail, hHead]
          rfl

theorem isUngrouped_oneOf {first : Term} {more : List Term}
    (hFirst : first.isUngrouped = true)
    (hMore : ∀ t ∈ more, t.isUngrouped = true) :
    (Term.oneOf first more).isUngrouped = true := by
  induction more generalizing first with
  | nil => exact hFirst
  | cons t more ih =>
      show (first.isUngrouped && (Term.oneOf t more).isUngrouped) = true
      rw [hFirst, ih (hMore t List.mem_cons_self) fun u hMem =>
        hMore u (List.mem_cons_of_mem t hMem)]
      rfl

/-- What a sequence of items does with a token that does not end it. -/
def itemsFrom (depth : Nat) (verbose first : Bool) (read : List Term) (t : Token) :
    Reader Term :=
  match t with
  | .plain c =>
    if verbose && isSkipped c then items depth verbose first read
    else if verbose && c == '#' then do
      commentLine ((← get).rest.length + 1)
      items depth verbose first read
    else do
      let next ← item (alternatives depth false) (fun v => items depth v false [])
        verbose first read t
      let flags := (← get).flags
      items depth (if first && next.isEmpty then flags.has .verbose else verbose) first
        next
  | .escaped _ => do
    let next ← item (alternatives depth false) (fun v => items depth v false [])
      verbose first read t
    items depth verbose first next

theorem items_succ (depth : Nat) (verbose first : Bool) (read : List Term) :
    items (depth + 1) verbose first read = (do
      match ← peek with
      | none => return Term.ofReversed read
      | some t =>
        if endsItems t then return Term.ofReversed read
        else do
          let _ ← take
          itemsFrom depth verbose first read t) := by
  rw [items]
  rfl

/-- The next token of a sequence. -/
theorem items_run_of_token {s : Reading} {t : Token} (depth : Nat)
    (verbose first : Bool) (read : List Term) (hFirst : Token.first? s.rest = some t)
    (hGoesOn : endsItems t = false) :
    (items (depth + 1) verbose first read).run s =
      (do
        let _ ← take
        itemsFrom depth verbose first read t : Reader Term).run s := by
  rw [items_succ, run_bind_of_ok (peek_run s)]
  simp only [hFirst, hGoesOn]
  rfl

/-- A term without groups, if none were read before. -/
def SameSequence (read : List Term) (a b : Term) : Prop :=
  b = a ∧ ((∀ t ∈ read, t.isUngrouped = true) → a.isUngrouped = true)

/-- A sequence of items, or some sequences in a group, are read alike. -/
structure SequencesEmbed (w : Surroundings) (n depth depth' : Nat) : Prop where
  items : ∀ verbose first read, Embeds w n true (SameSequence read)
    (items depth verbose first read) (items depth' verbose first read)
  alternatives : 2 * n < depth →
    ∀ verbose, ReadsInside w n (alternatives depth false verbose)
    (alternatives depth' false verbose)
  branches : ∀ verbose, Embeds w n true
    (fun a b => b = a ∧ ∀ t ∈ a, t.isUngrouped = true)
    (branches depth false verbose) (branches depth' false verbose)

theorem SequencesEmbed.sequence {depth depth' : Nat}
    (hEmbed : SequencesEmbed w n depth depth') (verbose : Bool) :
    ReadsInside w n (Reader.items depth verbose false [])
      (Reader.items depth' verbose false []) :=
  (hEmbed.items verbose false []).mono fun _ _ hSame => ⟨hSame.1, hSame.2 (by simp)⟩

/-- What follows a token of a sequence, when shorter sequences are
known to be read alike. -/
theorem embeds_itemsFrom {k depth depth' : Nat} (verbose first : Bool)
    (read : List Term) (t : Token) (hShorter : SequencesEmbed w k depth depth')
    (hDepth : 2 * k < depth) :
    Embeds w k true (SameSequence read) (itemsFrom depth verbose first read t)
      (itemsFrom depth' verbose first read t) := by
  have hItem : Embeds w k true (SameItems [] read)
      (item (alternatives depth false) (fun v => items depth v false []) verbose first
        read t)
      (item (alternatives depth' false) (fun v => items depth' v false []) verbose first
        (read ++ []) t) :=
    embeds_item [] read verbose first first t (hShorter.alternatives hDepth)
      hShorter.sequence
  rw [List.append_nil] at hItem
  have hStep : Embeds w k true
      (fun a b => b = a ∧
        ((∀ t ∈ read, t.isUngrouped = true) → ∀ t ∈ a, t.isUngrouped = true))
      (item (alternatives depth false) (fun v => items depth v false []) verbose first
        read t)
      (item (alternatives depth' false) (fun v => items depth' v false []) verbose first
        read t) :=
    hItem.mono fun a b hSame => ⟨hSame.1.trans (List.append_nil a), hSame.2⟩
  have hNext : ∀ next v, Embeds w k true
      (fun a b =>
        ((∀ t ∈ read, t.isUngrouped = true) → ∀ t ∈ next,
          t.isUngrouped = true) →
        SameSequence read a b) (items depth v first next) (items depth' v first next) :=
    fun next v => (hShorter.items v first next).mono fun a b hSame hKnown =>
      ⟨hSame.1, fun hRead => hSame.2 (hKnown hRead)⟩
  cases t with
  | escaped c => exact hStep.bindKnown fun next => hNext next verbose
  | plain c =>
      refine embeds_ite (fun _ => hShorter.items verbose first read) fun _ => ?_
      refine embeds_ite (fun _ => ?_) fun _ => ?_
      · refine embeds_get fun s t _ _ hLonger hShort => ?_
        refine (embeds_commentLine (by omega) (by omega)).bind fun _ => ?_
        exact (hShorter.items verbose first read).shorter hShort
      · refine hStep.bindKnown fun next => embeds_get fun s t _ hFlags _ hShort => ?_
        rw [hFlags]
        exact (hNext next _).shorter hShort

theorem embeds_items_succ {depth depth' : Nat} (verbose first : Bool) (read : List Term)
    (hShorter : ∀ k, 2 * k ≤ depth → SequencesEmbed w k depth depth')
    (hDepth : 2 * n ≤ depth + 1) :
    Embeds w n true (SameSequence read) (items (depth + 1) verbose first read)
      (items (depth' + 1) verbose first read) := by
  intro s a after hSound hLength hRun
  by_cases hStop : ∀ t, Token.first? s.rest = some t → endsItems t = true
  · rw [items_run_of_end _ verbose first read hStop] at hRun
    cases hRun
    refine ⟨.refl hSound, fun hCalm hLeft u hAround => ?_⟩
    -- something is left, so the same token ends the sequence in both texts
    have hSame : ∀ t, Token.first? u.rest = some t → endsItems t = true := by
      intro t hOther
      cases hFirst : Token.first? s.rest with
      | none => exact absurd (first?_eq_none.mp hFirst) (hLeft rfl)
      | some token =>
          rw [hAround.rest, first?_append _ hSound.rest_ne hFirst] at hOther
          exact hStop t (hFirst.trans hOther)
    exact ⟨_, u, items_run_of_end _ verbose first read hSame, hAround, rfl,
      isUngrouped_ofReversed⟩
  · obtain ⟨t, hFirst, hGoesOn⟩ : ∃ t, Token.first? s.rest = some t ∧
        endsItems t = false := by
      simpa using hStop
    rw [items_run_of_token depth verbose first read hFirst hGoesOn] at hRun
    have hFrom : ∀ k, k < n → Embeds w k true (SameSequence read)
        (itemsFrom depth verbose first read t)
        (itemsFrom depth' verbose first read t) :=
      fun k hLess => embeds_itemsFrom verbose first read t (hShorter k (by omega))
        (by omega)
    obtain ⟨hOnward, hAgree⟩ := @embeds_taken _ _ w n true _ (fun _ => _)
      (fun _ => itemsFrom depth' verbose first read t) s after t a hFirst hFrom hSound
      hLength hRun
    refine ⟨hOnward, fun hCalm hLeft u hAround => ?_⟩
    have hSame : Token.first? u.rest = some t := by
      rw [hAround.rest]
      exact first?_append _ hSound.rest_ne hFirst
    rw [items_run_of_token depth' verbose first read hSame hGoesOn]
    exact hAgree hCalm hLeft u hAround

/-- Sequences of items are read alike inside the fragment, if both depths are
enough for the fragment. -/
theorem sequencesEmbed {n depth depth' : Nat} (hDepth : 2 * n ≤ depth)
    (hMore : depth ≤ depth') :
    SequencesEmbed w n depth depth' := by
  induction depth generalizing n depth' with
  | zero =>
      obtain rfl : n = 0 := by omega
      refine ⟨fun verbose first read => Steps.embedsInside ?_ _ _,
        fun hLess => by omega,
        fun verbose => Steps.embedsInside ?_ _ _⟩
      · simp only [items]
        exact steps_pure _
      · simp only [branches]
        exact steps_pure _
  | succ depth ih =>
      obtain ⟨more, rfl⟩ : ∃ more, depth' = more + 1 := ⟨depth' - 1, by omega⟩
      have hShorter : ∀ k, 2 * k ≤ depth → SequencesEmbed w k depth more :=
        fun k hFits => ih hFits (by omega)
      refine ⟨fun verbose first read =>
        embeds_items_succ verbose first read hShorter hDepth,
        fun hLess verbose => ?_, fun verbose => ?_⟩
      · simp only [alternatives]
        refine ((hShorter n (by omega)).sequence verbose).bindKnown fun head => ?_
        refine ((hShorter n (by omega)).branches verbose).bindKnown fun rest => ?_
        exact embeds_pure fun hRest hHead => ⟨rfl, isUngrouped_oneOf hHead hRest⟩
      · simp only [branches]
        refine embeds_accept (by decide) (embeds_pure ⟨rfl, by simp⟩)
          fun k hLess => ?_
        refine embeds_get fun s t _ _ _ hShort => ?_
        refine (((hShorter k (by omega)).sequence verbose).shorter hShort).bindKnown
          fun next => ?_
        refine (((hShorter k (by omega)).branches verbose).shorter hShort).bindKnown
          fun rest => ?_
        refine embeds_pure fun hRest hNext => ⟨rfl, fun t hMem => ?_⟩
        rcases List.mem_cons.mp hMem with rfl | hMem
        · exact hNext
        · exact hRest t hMem

theorem itemsFrom_cases {depth : Nat} {first : Bool} {read : List Term} {t : Token}
    {s last : Reading} {term : Term}
    (hRun : (itemsFrom depth false first read t).run s = .ok (term, last)) :
    ∃ next mid verbose,
    (item (alternatives depth false) (fun v => items depth v false [])
        false first read t).run s = .ok (next, mid) ∧
      (mid.flags = 0 → verbose = false) ∧
      (items depth verbose first next).run mid = .ok (term, last) := by
  cases t with
  | escaped c =>
      obtain ⟨next, mid, hItem, hMore⟩ := bind_run hRun
      exact ⟨next, mid, false, hItem, fun _ => rfl, hMore⟩
  | plain c =>
      obtain ⟨next, mid, hItem, hMore⟩ := bind_run hRun
      rw [run_bind_of_ok (StateT.run_get mid)] at hMore
      refine ⟨next, mid, _, hItem, fun hFlags => ?_, hMore⟩
      rw [hFlags]
      split <;> rfl

theorem itemsFrom_run {depth : Nat} {first : Bool} {read next : List Term} {t : Token}
    {s mid : Reading}
    (hItem : (item (alternatives depth false) (fun v => items depth v false [])
      false first read t).run s = .ok (next, mid)) (hFlags : mid.flags = 0) :
    (itemsFrom depth false first read t).run s =
      (items depth false first next).run mid := by
  cases t with
  | escaped c => exact run_bind_of_ok hItem
  | plain c =>
      refine (run_bind_of_ok hItem).trans ?_
      rw [run_bind_of_ok (StateT.run_get mid), hFlags]
      split <;> rfl

end Embeds

/-- The next item of a fragment is read in its surroundings as on its own. -/
theorem item_embedded {w : Surroundings} (base : List Term) {depth more : Nat}
    {read : List Term} {token : Token} {s t last : Reading} {term : Term}
    (hSound : s.Sound) (hDepth : 2 * s.rest.length ≤ depth + 1)
    (hMore : depth ≤ more) (hFirst : Token.first? s.rest = some token)
    (hGoesOn : endsItems token = false)
    (hRun : (items (depth + 1) false true read).run s = .ok (term, last))
    (hCalm : last.Calm) (hAround : w.Around s t) :
    ∃ next mid tail, mid.Sound ∧ mid.rest.length < s.rest.length ∧
    w.Around mid tail ∧
      ((∀ u ∈ read, u.isUngrouped = true) → ∀ u ∈ next,
        u.isUngrouped = true) ∧
      (items depth false true next).run mid = .ok (term, last) ∧
      (items (more + 1) false true (read ++ base)).run t =
        (items more false true (next ++ base)).run tail := by
  rw [items_run_of_token depth false true read hFirst hGoesOn] at hRun
  obtain ⟨o, behind, hTake, hFrom⟩ := bind_run hRun
  obtain ⟨rfl, text, hText, hSlash, rfl⟩ := take_run_of_first? hFirst hTake
  obtain ⟨hOnward, hLess⟩ := onward_moved hSound hText hSlash
  obtain ⟨hTakeOther, hMoved⟩ := take_run_around hSound hAround hFirst hText hSlash
  generalize s.moved token.size text = behind at *
  obtain ⟨next, mid, verbose, hItem, hVerbose, hItems⟩ := itemsFrom_cases hFrom
  have hShorter : SequencesEmbed w behind.rest.length depth more :=
    sequencesEmbed (by omega) hMore
  have hStep : Embeds w behind.rest.length false (SameItems base read)
      (item (alternatives depth false) (fun v => items depth v false []) false true read
        token)
      (item (alternatives more false) (fun v => items more v false []) false true
        (read ++ base) token) :=
    embeds_item base read false true true token (hShorter.alternatives (by omega))
      hShorter.sequence
  obtain ⟨hFurther, hAgree⟩ :=
    hStep behind next mid hOnward.sound (Nat.le_refl _) hItem
  have hLast : mid.Onward last := (hShorter.items verbose true next).steps mid term last
    hFurther.sound hFurther.length_le hItems
  -- the end is calm, so the state behind the item is
  have hMidCalm := hLast.calm hCalm
  obtain ⟨b, tail, hItemOther, hAroundMid, rfl, hUngrouped⟩ :=
    hAgree hMidCalm (absurd · Bool.false_ne_true) _ hMoved
  rw [hVerbose hMidCalm.flags] at hItems
  have hSame : Token.first? t.rest = some token := by
    rw [hAround.rest]
    exact first?_append _ hSound.rest_ne hFirst
  refine ⟨next, mid, tail, hFurther.sound,
    Nat.lt_of_le_of_lt hFurther.length_le hLess, hAroundMid, hUngrouped, hItems, ?_⟩
  rw [items_run_of_token more false true (read ++ base) hSame hGoesOn,
    run_bind_of_ok hTakeOther,
    itemsFrom_run hItemOther (hAroundMid.flags.trans hMidCalm.flags)]

/-- A fragment that is one sequence of items is read in its surroundings as on
its own, item by item, and the reader goes on behind it. -/
theorem items_embedded {w : Surroundings} (base : List Term) {depth depth' : Nat}
    {read : List Term} {s t last : Reading} {term : Term} (hSound : s.Sound)
    (hDepth : 2 * s.rest.length ≤ depth) (hMore : depth ≤ depth')
    (hRun : (items depth false true read).run s = .ok (term, last))
    (hCalm : last.Calm) (hAround : w.Around s t)
    (hRead : ∀ u ∈ read, u.isUngrouped = true) :
    ∃ all rest final, term = Term.ofReversed all ∧
    (∀ u ∈ all, u.isUngrouped = true) ∧
      w.Around last final ∧ depth' ≤ rest + s.rest.length ∧
      (items depth' false true (read ++ base)).run t =
        (items rest false true (all ++ base)).run final := by
  induction depth generalizing depth' read s t with
  | zero =>
      have hNil : s.rest = [] := List.length_eq_zero_iff.mp (by omega)
      simp only [items] at hRun
      cases hRun
      exact ⟨read, depth', t, rfl, hRead, hAround, by omega, rfl⟩
  | succ depth ih =>
      by_cases hStop : ∀ token, Token.first? s.rest = some token →
        endsItems token = true
      · rw [items_run_of_end _ false true read hStop] at hRun
        cases hRun
        exact ⟨read, depth', t, rfl, hRead, hAround, by omega, rfl⟩
      · obtain ⟨token, hFirst, hGoesOn⟩ :
            ∃ token, Token.first? s.rest = some token ∧
            endsItems token = false := by
          simpa using hStop
        obtain ⟨more, rfl⟩ : ∃ more, depth' = more + 1 :=
          ⟨depth' - 1, by omega⟩
        obtain ⟨next, mid, tail, hMid, hLess, hAroundMid, hUngrouped, hItems,
          hStep⟩ :=
          item_embedded base hSound hDepth (Nat.le_of_succ_le_succ hMore) hFirst hGoesOn
            hRun hCalm hAround
        obtain ⟨all, rest, final, hTerm, hAll, hFinal, hRest, hEq⟩ :=
          ih hMid (by omega)
          (Nat.le_of_succ_le_succ hMore) hItems hAroundMid (hUngrouped hRead)
        exact ⟨all, rest, final, hTerm, hAll, hFinal, by omega, hStep.trans hEq⟩

end Reader

end Retag.Regex

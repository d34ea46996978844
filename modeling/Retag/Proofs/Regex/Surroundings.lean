import Retag.Proofs.Regex.Reading

/-!
# Reading a text as a part of a longer one

A fragment of an expression is read on its own, and read again as a part of a
longer expression, where some groups were closed before it and more text
stands behind it.  This module says when the two readings agree, and how the
agreement of two computations follows from that of their steps.

The text behind a fragment is empty or begins with a parenthesis.  The reader
never accepts a parenthesis where it looks for a sign that goes on with what
it has read, so it treats one as it treats the end of the text.  There are two
exceptions.  Where a sequence of items may go on, it does; and where a token
is needed, the end of the text is an error.  Hence a computation may be known
to agree only if it leaves some of the fragment unread (`inside`), and a token
that is read for certain is read in both texts.

Reading a fragment that opens no group, names none and turns on no flags for
the whole expression is *calm*.  Nothing that a computation does can be undone
by a later one, so that a calm end has a calm beginning, and agreement is only
asked for when the end is calm.

## Main results

* `Embeds.bind`: agreement of two computations, one after the other.
* `embeds_take`, `embeds_takeIf`, `embeds_peek`: the ways to look at the text.
-/

namespace Retag.Regex

/-! ## States -/

/-- What every state of the reader satisfies. -/
structure Reading.Sound (s : Reading) : Prop where
  /-- A lone backslash is refused before the reader comes to it. -/
  rest_ne : s.rest ≠ ['\\']
  /-- The whole expression is a group that is never closed. -/
  whole : s.groups.head? = some none
  names_lt : s.names.length < s.groups.length
  conditions_pos : ∀ c ∈ s.conditions, 0 < c.1

/-- No group has been opened and no flag turned on, and no condition asks for
a group. -/
structure Reading.Calm (s : Reading) : Prop where
  flags : s.flags = 0
  groups : s.groups = [none]
  conditions : s.conditions = []

/-- What reading on does to a state. -/
structure Reading.Onward (s after : Reading) : Prop where
  sound : after.Sound
  subject : after.subject = s.subject
  length_le : after.rest.length ≤ s.rest.length
  /-- What was done stays done. -/
  calm : after.Calm → s.Calm

theorem Reading.Onward.refl {s : Reading} (hSound : s.Sound) : s.Onward s :=
  ⟨hSound, rfl, Nat.le_refl _, id⟩

theorem Reading.Onward.trans {s mid after : Reading} (hFirst : s.Onward mid)
    (hSecond : mid.Onward after) : s.Onward after :=
  ⟨hSecond.sound, hSecond.subject.trans hFirst.subject,
    Nat.le_trans hSecond.length_le hFirst.length_le,
    fun hCalm => hFirst.calm (hSecond.calm hCalm)⟩

theorem Reading.Onward.rest_ne {s after : Reading} (hOnward : s.Onward after)
    (hRest : after.rest ≠ []) : s.rest ≠ [] := by
  intro hNil
  have hLength := hOnward.length_le
  rw [hNil, List.length_nil, Nat.le_zero, List.length_eq_zero_iff] at hLength
  exact hRest hLength

/-- Without groups there are no names of groups. -/
theorem Reading.Calm.names {s : Reading} (hCalm : s.Calm) (hSound : s.Sound) :
    s.names = [] := by
  have hLength := hSound.names_lt
  rw [hCalm.groups, List.length_singleton, Nat.lt_one_iff,
    List.length_eq_zero_iff] at hLength
  exact hLength

/-- What surrounds a fragment: the groups before it and the text behind it. -/
structure Surroundings where
  groups : List (Option Width)
  tail : Text
  /-- The text behind is empty or begins with a parenthesis. -/
  opens : ∀ c ∈ tail.head?, c = '('

/-- Nothing around the fragment. -/
def Surroundings.nothing : Surroundings := ⟨[none], [], nofun⟩

/-- A state in the fragment, and the same state in its surroundings. Where it
stands in the whole text does not matter, nor what a look-behind counts. -/
structure Surroundings.Around (w : Surroundings) (s t : Reading) : Prop where
  rest : t.rest = s.rest ++ w.tail
  groups : t.groups = w.groups
  subject : t.subject = s.subject
  flags : t.flags = s.flags
  names : t.names = s.names
  conditions : t.conditions = s.conditions

namespace Reader

/-! ## Computations that agree -/

/-- The first computation, in a fragment of at most so many characters, reads
on; and if its end is calm, the second one does the same in the surroundings,
and their answers are related. With `inside`, this is only said where some of
the fragment is left. -/
def Embeds {α β : Type} (w : Surroundings) (n : Nat) (inside : Bool)
    (R : α → β → Prop) (m : Reader α) (m' : Reader β) : Prop :=
  ∀ s a after, s.Sound → s.rest.length ≤ n → m.run s = .ok (a, after) →
    s.Onward after ∧ (after.Calm → (inside = true → after.rest ≠ []) →
      ∀ t, w.Around s t →
      ∃ b final, m'.run t = .ok (b, final) ∧ w.Around after final ∧ R a b)

/-- A computation that never succeeds. -/
def Fails {α : Type} (m : Reader α) : Prop :=
  ∀ s a after, m.run s ≠ .ok (a, after)

/-- A computation that needs something to read. -/
def NeedsText {α : Type} (m : Reader α) : Prop :=
  ∀ s a after, m.run s = .ok (a, after) → s.rest ≠ []

/-- The computation reads on. -/
def Steps {α : Type} (n : Nat) (m : Reader α) : Prop :=
  ∀ s a after, s.Sound → s.rest.length ≤ n → m.run s = .ok (a, after) →
    s.Onward after

/-- The computation reads on to a state that is not calm, or fails. So nothing
has to be known about it in the surroundings. -/
def Stirs {α : Type} (n : Nat) (m : Reader α) : Prop :=
  ∀ s a after, s.Sound → s.rest.length ≤ n → m.run s = .ok (a, after) →
    s.Onward after ∧ ¬ after.Calm

section Embeds

variable {α β γ δ : Type} {w : Surroundings} {n : Nat} {inside : Bool}

/-- Taking a computation that succeeded apart. -/
theorem bind_run {m : Reader α} {f : α → Reader γ} {s after : Reading} {c : γ}
    (hRun : (m >>= f).run s = .ok (c, after)) :
    ∃ a mid, m.run s = .ok (a, mid) ∧ (f a).run mid = .ok (c, after) := by
  rw [StateT.run_bind] at hRun
  cases hFirst : m.run s with
  | error e =>
      rw [hFirst] at hRun
      cases hRun
  | ok step =>
      rw [hFirst] at hRun
      exact ⟨step.1, step.2, rfl, hRun⟩

theorem fails_failAt (fault : Fault) (position : Nat) :
    Fails (failAt fault position : Reader α) := by
  intro s a after hRun
  cases hRun

theorem fails_fail (fault : Fault) (back : Nat) :
    Fails (fail fault back : Reader α) := by
  intro s a after hRun
  cases hRun

theorem fails_throw (e : CompileError) : Fails (throw e : Reader α) := by
  intro s a after hRun
  cases hRun

theorem Fails.bind {m : Reader α} (hFails : Fails m) (f : α → Reader γ) :
    Fails (m >>= f) := by
  intro s c after hRun
  obtain ⟨a, mid, hFirst, -⟩ := bind_run hRun
  exact hFails s a mid hFirst

/-- A computation that never succeeds agrees with every other one. -/
theorem Fails.embeds {m : Reader α} (hFails : Fails m) (R : α → β → Prop)
    (m' : Reader β) :
    Embeds w n inside R m m' :=
  fun s a after _ _ hRun => absurd hRun (hFails s a after)

theorem embeds_pure {R : α → β → Prop} {a : α} {b : β} (hRel : R a b) :
    Embeds w n inside R (pure a) (pure b) := by
  intro s c after hSound hLength hRun
  cases hRun
  exact ⟨.refl hSound, fun _ _ t hAround => ⟨b, t, rfl, hAround, hRel⟩⟩

theorem Embeds.mono {R S : α → β → Prop} {m : Reader α} {m' : Reader β}
    (hEmbeds : Embeds w n inside R m m') (hRel : ∀ a b, R a b → S a b) :
    Embeds w n inside S m m' := by
  intro s a after hSound hLength hRun
  obtain ⟨hOnward, hAgree⟩ := hEmbeds s a after hSound hLength hRun
  refine ⟨hOnward, fun hCalm hInside t hAround => ?_⟩
  obtain ⟨b, final, hOther, hFinal, hBoth⟩ := hAgree hCalm hInside t hAround
  exact ⟨b, final, hOther, hFinal, hRel a b hBoth⟩

/-- Agreement in shorter fragments. -/
theorem Embeds.shorter {k : Nat} {R : α → β → Prop} {m : Reader α}
    {m' : Reader β}
    (hEmbeds : Embeds w n inside R m m') (hLe : k ≤ n) : Embeds w k inside R m m' :=
  fun s a after hSound hLength hRun =>
    hEmbeds s a after hSound (Nat.le_trans hLength hLe) hRun

/-- One computation after the other. What the first one answers is the same in
both texts, and whatever is known about it may be used for the second one. -/
theorem Embeds.bindKnown {Q : α → Prop} {S : γ → δ → Prop} {m m' : Reader α}
    {f : α → Reader γ} {f' : α → Reader δ}
    (hFirst : Embeds w n inside (fun a b => b = a ∧ Q a) m m')
    (hSecond : ∀ a, Embeds w n inside (fun c d => Q a → S c d) (f a) (f' a)) :
    Embeds w n inside S (m >>= f) (m' >>= f') := by
  intro s c after hSound hLength hRun
  obtain ⟨a, mid, hRunFirst, hRunSecond⟩ := bind_run hRun
  obtain ⟨hOnward, hAgree⟩ := hFirst s a mid hSound hLength hRunFirst
  obtain ⟨hFurther, hAgreeFurther⟩ := hSecond a mid c after hOnward.sound
    (Nat.le_trans hOnward.length_le hLength) hRunSecond
  refine ⟨hOnward.trans hFurther, fun hCalm hInside t hAround => ?_⟩
  obtain ⟨b, midFinal, hOther, hMid, rfl, hKnown⟩ :=
    hAgree (hFurther.calm hCalm) (fun h => hFurther.rest_ne (hInside h)) t hAround
  obtain ⟨d, final, hOtherFurther, hFinal, hRel⟩ :=
    hAgreeFurther hCalm hInside midFinal hMid
  refine ⟨d, final, ?_, hFinal, hRel hKnown⟩
  rw [run_bind_of_ok hOther, hOtherFurther]

theorem Embeds.bind {S : γ → δ → Prop} {m m' : Reader α} {f : α → Reader γ}
    {f' : α → Reader δ} (hFirst : Embeds w n inside (fun a b => b = a) m m')
    (hSecond : ∀ a, Embeds w n inside S (f a) (f' a)) :
    Embeds w n inside S (m >>= f) (m' >>= f') :=
  Embeds.bindKnown (hFirst.mono fun _ _ hSame => ⟨hSame, trivial⟩)
    fun a => (hSecond a).mono fun _ _ hRel _ => hRel

/-- What is known about the first answer may be needed for the second
computation to agree at all. -/
theorem Embeds.bindIf {Q : α → Prop} {S : γ → δ → Prop} {m m' : Reader α}
    {f : α → Reader γ} {f' : α → Reader δ}
    (hFirst : Embeds w n inside (fun a b => b = a ∧ Q a) m m')
    (hSteps : ∀ a, Steps n (f a))
    (hSecond : ∀ a, Q a → Embeds w n inside S (f a) (f' a)) :
    Embeds w n inside S (m >>= f) (m' >>= f') := by
  intro s c after hSound hLength hRun
  obtain ⟨a, mid, hRunFirst, hRunSecond⟩ := bind_run hRun
  obtain ⟨hOnward, hAgree⟩ := hFirst s a mid hSound hLength hRunFirst
  have hShort := Nat.le_trans hOnward.length_le hLength
  have hFurther := hSteps a mid c after hOnward.sound hShort hRunSecond
  refine ⟨hOnward.trans hFurther, fun hCalm hInside t hAround => ?_⟩
  obtain ⟨b, midFinal, hOther, hMid, rfl, hKnown⟩ :=
    hAgree (hFurther.calm hCalm) (fun h => hFurther.rest_ne (hInside h)) t hAround
  obtain ⟨d, final, hOtherFurther, hFinal, hRel⟩ :=
    (hSecond _ hKnown mid c after hOnward.sound hShort hRunSecond).2 hCalm hInside
      midFinal hMid
  refine ⟨d, final, ?_, hFinal, hRel⟩
  rw [run_bind_of_ok hOther, hOtherFurther]

/-- A computation that agrees inside the fragment, with one behind it that
needs text: they agree everywhere. -/
theorem Embeds.bindText {Q : α → Prop} {S : γ → δ → Prop} {m m' : Reader α}
    {f : α → Reader γ} {f' : α → Reader δ}
    (hFirst : Embeds w n true (fun a b => b = a ∧ Q a) m m')
    (hText : ∀ a, NeedsText (f a))
    (hSecond : ∀ a, Embeds w n inside (fun c d => Q a → S c d) (f a) (f' a)) :
    Embeds w n inside S (m >>= f) (m' >>= f') := by
  intro s c after hSound hLength hRun
  obtain ⟨a, mid, hRunFirst, hRunSecond⟩ := bind_run hRun
  obtain ⟨hOnward, hAgree⟩ := hFirst s a mid hSound hLength hRunFirst
  obtain ⟨hFurther, hAgreeFurther⟩ := hSecond a mid c after hOnward.sound
    (Nat.le_trans hOnward.length_le hLength) hRunSecond
  refine ⟨hOnward.trans hFurther, fun hCalm hInside t hAround => ?_⟩
  obtain ⟨b, midFinal, hOther, hMid, rfl, hKnown⟩ :=
    hAgree (hFurther.calm hCalm) (fun _ => hText a mid c after hRunSecond) t hAround
  obtain ⟨d, final, hOtherFurther, hFinal, hRel⟩ :=
    hAgreeFurther hCalm hInside midFinal hMid
  refine ⟨d, final, ?_, hFinal, hRel hKnown⟩
  rw [run_bind_of_ok hOther, hOtherFurther]

theorem embeds_ite {R : α → β → Prop} {p : Prop} [Decidable p] {m k : Reader α}
    {m' k' : Reader β} (hThen : p → Embeds w n inside R m m')
    (hElse : ¬ p → Embeds w n inside R k k') :
    Embeds w n inside R (if p then m else k) (if p then m' else k') := by
  by_cases hCase : p
  · rw [if_pos hCase, if_pos hCase]
    exact hThen hCase
  · rw [if_neg hCase, if_neg hCase]
    exact hElse hCase

/-! ## Computations that do not agree -/

theorem Embeds.steps {R : α → β → Prop} {m : Reader α} {m' : Reader β}
    (hEmbeds : Embeds w n inside R m m') : Steps n m :=
  fun s a after hSound hLength hRun => (hEmbeds s a after hSound hLength hRun).1

theorem Steps.shorter {k : Nat} {m : Reader α} (hSteps : Steps n m) (hLe : k ≤ n) :
    Steps k m :=
  fun s a after hSound hLength hRun =>
    hSteps s a after hSound (Nat.le_trans hLength hLe) hRun

theorem Stirs.steps {m : Reader α} (hStirs : Stirs n m) : Steps n m :=
  fun s a after hSound hLength hRun => (hStirs s a after hSound hLength hRun).1

theorem Fails.stirs {m : Reader α} (hFails : Fails m) : Stirs n m :=
  fun s a after _ _ hRun => absurd hRun (hFails s a after)

theorem Fails.steps {m : Reader α} (hFails : Fails m) : Steps n m :=
  fun s a after _ _ hRun => absurd hRun (hFails s a after)

theorem steps_of_eq {m : Reader α}
    (hSame : ∀ s a after, m.run s = .ok (a, after) → after = s) :
    Steps n m := by
  intro s a after hSound _ hRun
  rw [hSame s a after hRun]
  exact .refl hSound

theorem Steps.bind {m : Reader α} {f : α → Reader β} (hFirst : Steps n m)
    (hSecond : ∀ a, Steps n (f a)) : Steps n (m >>= f) := by
  intro s c after hSound hLength hRun
  obtain ⟨a, mid, hRunFirst, hRunSecond⟩ := bind_run hRun
  have hOnward := hFirst s a mid hSound hLength hRunFirst
  exact hOnward.trans (hSecond a mid c after hOnward.sound
    (Nat.le_trans hOnward.length_le hLength) hRunSecond)

theorem Stirs.embeds {m : Reader α} (hStirs : Stirs n m) (R : α → β → Prop)
    (m' : Reader β) :
    Embeds w n inside R m m' := by
  intro s a after hSound hLength hRun
  obtain ⟨hOnward, hCalm⟩ := hStirs s a after hSound hLength hRun
  exact ⟨hOnward, fun h => absurd h hCalm⟩

/-- What was stirred stays so. -/
theorem Stirs.bind {m : Reader α} {f : α → Reader β} (hFirst : Stirs n m)
    (hSecond : ∀ a, Steps n (f a)) : Stirs n (m >>= f) := by
  intro s c after hSound hLength hRun
  obtain ⟨a, mid, hRunFirst, hRunSecond⟩ := bind_run hRun
  obtain ⟨hOnward, hCalm⟩ := hFirst s a mid hSound hLength hRunFirst
  have hFurther := hSecond a mid c after hOnward.sound
    (Nat.le_trans hOnward.length_le hLength) hRunSecond
  exact ⟨hOnward.trans hFurther, fun h => hCalm (hFurther.calm h)⟩

theorem Steps.thenStirs {m : Reader α} {f : α → Reader β} (hFirst : Steps n m)
    (hSecond : ∀ a, Stirs n (f a)) : Stirs n (m >>= f) := by
  intro s c after hSound hLength hRun
  obtain ⟨a, mid, hRunFirst, hRunSecond⟩ := bind_run hRun
  have hOnward := hFirst s a mid hSound hLength hRunFirst
  obtain ⟨hFurther, hCalm⟩ := hSecond a mid c after hOnward.sound
    (Nat.le_trans hOnward.length_le hLength) hRunSecond
  exact ⟨hOnward.trans hFurther, hCalm⟩

/-! ## Looking at the state -/

/-- The index does not have to be the same. -/
theorem embeds_tell {R : α → β → Prop} {f : Nat → Reader α}
    {f' : Nat → Reader β} (hBehind : ∀ p q, Embeds w n inside R (f p) (f' q)) :
    Embeds w n inside R (tell >>= f) (tell >>= f') := by
  intro s a after hSound hLength hRun
  rw [run_bind_of_ok (tell_run s)] at hRun
  obtain ⟨hOnward, -⟩ := hBehind s.position s.position s a after hSound hLength hRun
  refine ⟨hOnward, fun hCalm hInside t hAround => ?_⟩
  rw [run_bind_of_ok (tell_run t)]
  exact (hBehind s.position t.position s a after hSound hLength hRun).2 hCalm hInside t
    hAround

/-- What both states agree on may be looked at, and how much is left may be
taken as a bound. -/
theorem embeds_get {R : α → β → Prop} {f : Reading → Reader α}
    {f' : Reading → Reader β}
    (hBehind : ∀ s t : Reading, t.subject = s.subject → t.flags = s.flags →
      s.rest.length ≤ t.rest.length → s.rest.length ≤ n →
      Embeds w s.rest.length inside R (f s) (f' t)) :
    Embeds w n inside R (get >>= f) (get >>= f') := by
  intro s a after hSound hLength hRun
  rw [run_bind_of_ok (StateT.run_get s)] at hRun
  obtain ⟨hOnward, -⟩ :=
    hBehind s s rfl rfl (Nat.le_refl _) hLength s a after hSound
    (Nat.le_refl _) hRun
  refine ⟨hOnward, fun hCalm hInside t hAround => ?_⟩
  have hLonger : s.rest.length ≤ t.rest.length := by
    rw [hAround.rest, List.length_append]
    omega
  rw [run_bind_of_ok (StateT.run_get t)]
  exact (hBehind s t hAround.subject hAround.flags hLonger hLength s a after hSound
    (Nat.le_refl _) hRun).2 hCalm hInside t hAround

/-- What a look-behind counts may change, in each text in its own way. -/
theorem embeds_modify {f g : Reading → Reading}
    (hFirst : ∀ s, ∃ behind, f s = { s with behind := behind })
    (hSecond : ∀ t, ∃ behind, g t = { t with behind := behind }) :
    Embeds w n inside (fun a b => b = a) (modify f : Reader PUnit) (modify g) := by
  intro s a after hSound hLength hRun
  have hAfter : f s = after := by cases hRun; rfl
  obtain ⟨behind, hChange⟩ := hFirst s
  rw [hChange] at hAfter
  subst hAfter
  refine ⟨⟨⟨hSound.rest_ne, hSound.whole, hSound.names_lt,
    hSound.conditions_pos⟩, rfl, Nat.le_refl _, fun hCalm =>
      ⟨hCalm.flags, hCalm.groups, hCalm.conditions⟩⟩, ?_⟩
  intro hCalm hInside t hAround
  obtain ⟨other, hOther⟩ := hSecond t
  refine ⟨(), g t, rfl, ?_, rfl⟩
  rw [hOther]
  exact ⟨hAround.rest, hAround.groups, hAround.subject, hAround.flags, hAround.names,
    hAround.conditions⟩

/-! ## Looking at the text -/

theorem first?_plain {c : Char} (rest : Text) (hPlain : c ≠ '\\') :
    Token.first? (c :: rest) = some (.plain c) := by
  simp [Token.first?, hPlain]

theorem first?_eq_none {text : Text} : Token.first? text = none ↔ text = [] := by
  cases text with
  | nil => simp [Token.first?]
  | cons c rest =>
      by_cases hSlash : c = '\\'
      · subst hSlash
        cases rest <;> simp [Token.first?]
      · simp [first?_plain rest hSlash]

/-- The first token is the first part of the text. -/
theorem text_of_first? {text : Text} {t : Token} (hFirst : Token.first? text = some t) :
    ∃ rest, text = t.text ++ rest := by
  unfold Token.first? at hFirst
  split at hFirst
  · cases hFirst
  · rename_i c rest
    cases hFirst
    exact ⟨rest, rfl⟩
  · rename_i c rest hPlain
    cases hFirst
    exact ⟨rest, rfl⟩

/-- A text behind a fragment does not change a token of the fragment. -/
theorem first?_append {text : Text} {t : Token} (tail : Text) (hText : text ≠ ['\\'])
    (hFirst : Token.first? text = some t) : Token.first? (text ++ tail) = some t := by
  cases text with
  | nil => cases hFirst
  | cons c rest =>
      by_cases hSlash : c = '\\'
      · subst hSlash
        cases rest with
        | nil => exact absurd rfl hText
        | cons d rest => exact hFirst
      · rw [first?_plain rest hSlash] at hFirst
        rw [List.cons_append, first?_plain _ hSlash, hFirst]

theorem size_pos (t : Token) : 0 < t.size := by
  cases t <;> simp [Token.size, Token.text]

/-- What the end of the fragment looks like from the surroundings. -/
theorem first?_tail (w : Surroundings) :
    Token.first? w.tail = none ∨ Token.first? w.tail = some (.plain '(') := by
  cases hTail : w.tail with
  | nil => exact .inl rfl
  | cons c tail =>
      have hOpens : c = '(' := w.opens c (by rw [hTail]; rfl)
      exact .inr (by rw [hOpens]; rfl)

/-- Reading a token that is there. -/
theorem take_run_of_first? {s after : Reading} {o : Option Token} {t : Token}
    (hFirst : Token.first? s.rest = some t) (hRun : take.run s = .ok (o, after)) :
    o = some t ∧ ∃ rest, s.rest = t.text ++ rest ∧ rest ≠ ['\\'] ∧
    after = s.moved t.size rest := by
  obtain ⟨rest, hRest⟩ := text_of_first? hFirst
  by_cases hEnd : rest = ['\\']
  · have hDrop : s.rest.drop t.size = ['\\'] := by
      rw [hRest, Token.size, List.drop_left, hEnd]
    rw [take, run_bind_of_ok (StateT.run_get s)] at hRun
    simp only [hFirst, hDrop] at hRun
    cases hRun
  · rw [take_run hRest hFirst hEnd] at hRun
    cases hRun
    exact ⟨rfl, rest, hRest, hEnd, rfl⟩

/-- A state behind a token. -/
theorem onward_moved {s : Reading} {t : Token} {rest : Text} (hSound : s.Sound)
    (hRest : s.rest = t.text ++ rest) (hEnd : rest ≠ ['\\']) :
    s.Onward (s.moved t.size rest) ∧
    (s.moved t.size rest).rest.length < s.rest.length := by
  have hLess : rest.length < s.rest.length := by
    have hPos := size_pos t
    rw [hRest, List.length_append, ← Token.size]
    omega
  exact ⟨⟨⟨hEnd, hSound.whole, hSound.names_lt, hSound.conditions_pos⟩, rfl,
    Nat.le_of_lt hLess, fun hCalm =>
      ⟨hCalm.flags, hCalm.groups, hCalm.conditions⟩⟩, hLess⟩

/-- The same token is read in the surroundings. -/
theorem take_run_around {s t : Reading} {token : Token} {rest : Text} (hSound : s.Sound)
    (hAround : w.Around s t) (hFirst : Token.first? s.rest = some token)
    (hRest : s.rest = token.text ++ rest) (hEnd : rest ≠ ['\\']) :
    take.run t = .ok (some token, t.moved token.size (rest ++ w.tail)) ∧
      w.Around (s.moved token.size rest) (t.moved token.size (rest ++ w.tail)) := by
  have hLonger : t.rest = token.text ++ (rest ++ w.tail) := by
    rw [hAround.rest, hRest, List.append_assoc]
  have hSame : Token.first? t.rest = some token := by
    rw [hAround.rest]
    exact first?_append _ hSound.rest_ne hFirst
  have hBehind : rest ++ w.tail ≠ ['\\'] := by
    intro hSlash
    cases rest with
    | nil =>
        have hOpens :=
          w.opens '\\' (by rw [List.nil_append] at hSlash; rw [hSlash]; rfl)
        exact absurd hOpens (by decide)
    | cons c rest =>
        obtain ⟨hHead, hNil⟩ := List.cons.inj hSlash
        exact hEnd (by rw [hHead, (List.append_eq_nil_iff.mp hNil).1])
  exact ⟨take_run hLonger hSame hBehind, rfl, hAround.groups, hAround.subject,
    hAround.flags, hAround.names, hAround.conditions⟩

/-- Reading a token that is there: less is left behind it. -/
theorem embeds_taken {R : α → β → Prop} {f : Option Token → Reader α}
    {f' : Option Token → Reader β} {s after : Reading} {t : Token} {a : α}
    (hFirst : Token.first? s.rest = some t)
    (hSome : ∀ k, k < n → Embeds w k inside R (f (some t)) (f' (some t)))
    (hSound : s.Sound) (hLength : s.rest.length ≤ n)
    (hRun : (take >>= f).run s = .ok (a, after)) :
    s.Onward after ∧ (after.Calm → (inside = true → after.rest ≠ []) →
      ∀ u, w.Around s u →
      ∃ b final, (take >>= f').run u = .ok (b, final) ∧
      w.Around after final ∧ R a b) := by
  obtain ⟨o, mid, hTake, hBehind⟩ := bind_run hRun
  obtain ⟨rfl, rest, hRest, hEnd, rfl⟩ := take_run_of_first? hFirst hTake
  obtain ⟨hOnward, hLess⟩ := onward_moved hSound hRest hEnd
  obtain ⟨hFurther, hAgree⟩ := hSome _ (Nat.lt_of_lt_of_le hLess hLength) _ a after
    hOnward.sound (Nat.le_refl _) hBehind
  refine ⟨hOnward.trans hFurther, fun hCalm hInside u hAround => ?_⟩
  obtain ⟨hOther, hMoved⟩ := take_run_around hSound hAround hFirst hRest hEnd
  obtain ⟨b, final, hOtherFurther, hFinal, hRel⟩ := hAgree hCalm hInside _ hMoved
  exact ⟨b, final, by rw [run_bind_of_ok hOther, hOtherFurther], hFinal, hRel⟩

theorem take_run_of_nil {s : Reading} (hNil : s.rest = []) :
    take.run s = .ok (none, s) := by
  rw [take, run_bind_of_ok (StateT.run_get s), hNil]
  rfl

/-- A token that is needed: at the end of the fragment the computation fails. -/
theorem embeds_take {R : α → β → Prop} {f : Option Token → Reader α}
    {f' : Option Token → Reader β} (hNone : Fails (f none))
    (hSome : ∀ t k, k < n → Embeds w k inside R (f (some t)) (f' (some t))) :
    Embeds w n inside R (take >>= f) (take >>= f') := by
  intro s a after hSound hLength hRun
  cases hFirst : Token.first? s.rest with
  | some t => exact embeds_taken hFirst (hSome t) hSound hLength hRun
  | none =>
      rw [run_bind_of_ok (take_run_of_nil (first?_eq_none.mp hFirst))] at hRun
      exact absurd hRun (hNone s a after)

/-- A token that may be missing where the fragment ends. -/
theorem embeds_takeInside {R : α → β → Prop} {f : Option Token → Reader α}
    {f' : Option Token → Reader β} (hNone : Steps n (f none))
    (hSome : ∀ t k, k < n → Embeds w k true R (f (some t)) (f' (some t))) :
    Embeds w n true R (take >>= f) (take >>= f') := by
  intro s a after hSound hLength hRun
  cases hFirst : Token.first? s.rest with
  | some t => exact embeds_taken hFirst (hSome t) hSound hLength hRun
  | none =>
      have hNil := first?_eq_none.mp hFirst
      rw [run_bind_of_ok (take_run_of_nil hNil)] at hRun
      have hOnward := hNone s a after hSound hLength hRun
      exact ⟨hOnward, fun _ hLeft => absurd hNil (hOnward.rest_ne (hLeft rfl))⟩

/-- Where the fragment ends, nothing has to be known. -/
theorem Steps.embedsInside {m : Reader α} (hSteps : Steps 0 m) (R : α → β → Prop)
    (m' : Reader β) : Embeds w 0 true R m m' := by
  intro s a after hSound hLength hRun
  have hOnward := hSteps s a after hSound hLength hRun
  refine ⟨hOnward, fun _ hLeft => ?_⟩
  have hNil : s.rest = [] := List.length_eq_zero_iff.mp (Nat.le_zero.mp hLength)
  exact absurd hNil (hOnward.rest_ne (hLeft rfl))

/-- Looking at the next token. At the end of the fragment a parenthesis may be
seen instead of nothing. -/
theorem embeds_peek {R : α → β → Prop} {f : Option Token → Reader α}
    {f' : Option Token → Reader β} (hSame : ∀ o, Embeds w n inside R (f o) (f' o))
    (hEnd : Embeds w n inside R (f none) (f' (some (.plain '(')))) :
    Embeds w n inside R (peek >>= f) (peek >>= f') := by
  intro s a after hSound hLength hRun
  rw [run_bind_of_ok (peek_run s)] at hRun
  obtain ⟨hOnward, -⟩ := hSame _ s a after hSound hLength hRun
  refine ⟨hOnward, fun hCalm hInside t hAround => ?_⟩
  rw [run_bind_of_ok (peek_run t)]
  cases hFirst : Token.first? s.rest with
  | some token =>
      rw [hFirst] at hRun
      rw [hAround.rest, first?_append _ hSound.rest_ne hFirst]
      exact (hSame _ s a after hSound hLength hRun).2 hCalm hInside t hAround
  | none =>
      rw [hFirst] at hRun
      rw [hAround.rest, first?_eq_none.mp hFirst, List.nil_append]
      rcases first?_tail w with hTail | hTail
      · rw [hTail]
        exact (hSame _ s a after hSound hLength hRun).2 hCalm hInside t hAround
      · rw [hTail]
        exact (hEnd s a after hSound hLength hRun).2 hCalm hInside t hAround

/-! ## Characters of a class -/

/-- Reads the next token if it is a character of a class. -/
def takeIf (p : Char → Bool) : Reader (Option Char) := do
  match ← peek with
  | some (.plain c) =>
    if p c then
      let _ ← take
      return some c
    else return none
  | _ => return none

/-- A character of a class, or something else that stays unread. -/
theorem takeIf_run (p : Char → Bool) (s : Reading) :
    (∃ c, Token.first? s.rest = some (.plain c) ∧ p c = true ∧
      (takeIf p).run s = (do let _ ← take; return some c : Reader (Option Char)).run
        s) ∨
    ((∀ c, Token.first? s.rest = some (.plain c) → p c = false) ∧
      (takeIf p).run s = .ok (none, s)) := by
  rw [takeIf, run_bind_of_ok (peek_run s)]
  split
  · rename_i c hFirst
    by_cases hClass : p c = true
    · rw [if_pos hClass]
      exact .inl ⟨c, hFirst, hClass, rfl⟩
    · rw [if_neg hClass]
      refine .inr ⟨?_, rfl⟩
      intro d hOther
      rw [hFirst] at hOther
      cases hOther
      exact Bool.eq_false_iff.mpr hClass
  · rename_i hOther
    exact .inr ⟨fun c hFirst => absurd hFirst (hOther c), rfl⟩

/-- A character of a class to which no parenthesis belongs. -/
theorem embeds_takeIf {R : α → β → Prop} {p : Char → Bool}
    {f : Option Char → Reader α}
    {f' : Option Char → Reader β} (hClass : p '(' = false)
    (hNone : Embeds w n inside R (f none) (f' none))
    (hSome : ∀ c k, p c = true → k < n →
      Embeds w k inside R (f (some c)) (f' (some c))) :
    Embeds w n inside R (takeIf p >>= f) (takeIf p >>= f') := by
  intro s a after hSound hLength hRun
  obtain ⟨o, mid, hTaken, hBehind⟩ := bind_run hRun
  rcases takeIf_run p s with ⟨c, hFirst, hMember, hEq⟩ | ⟨hOther, hEq⟩
  · rw [hEq] at hTaken
    obtain ⟨token, end', hTake, hPure⟩ := bind_run hTaken
    cases hPure
    obtain ⟨-, rest, hRest, hEnd, rfl⟩ := take_run_of_first? hFirst hTake
    obtain ⟨hOnward, hLess⟩ := onward_moved hSound hRest hEnd
    obtain ⟨hFurther, hAgree⟩ :=
      hSome c _ hMember (Nat.lt_of_lt_of_le hLess hLength) _ a after
      hOnward.sound (Nat.le_refl _) hBehind
    refine ⟨hOnward.trans hFurther, fun hCalm hInside u hAround => ?_⟩
    obtain ⟨hOtherTake, hMoved⟩ := take_run_around hSound hAround hFirst hRest hEnd
    have hSame : Token.first? u.rest = some (.plain c) := by
      rw [hAround.rest]
      exact first?_append _ hSound.rest_ne hFirst
    have hOtherRun : (takeIf p).run u =
        .ok (some c, u.moved (Token.plain c).size (rest ++ w.tail)) := by
      rw [takeIf, run_bind_of_ok (peek_run u)]
      simp only [hSame, hMember, if_true]
      rw [run_bind_of_ok hOtherTake]
      rfl
    obtain ⟨b, final, hOtherFurther, hFinal, hRel⟩ := hAgree hCalm hInside _ hMoved
    exact ⟨b, final, by rw [run_bind_of_ok hOtherRun, hOtherFurther], hFinal, hRel⟩
  · rw [hEq] at hTaken
    cases hTaken
    obtain ⟨hOnward, hAgree⟩ := hNone s a after hSound hLength hBehind
    refine ⟨hOnward, fun hCalm hInside u hAround => ?_⟩
    -- the fragment goes on with another token, or it ends
    have hAbsent : ∀ c, Token.first? u.rest = some (.plain c) → p c = false := by
      intro c hSame
      rw [hAround.rest] at hSame
      cases hFirst : Token.first? s.rest with
      | some token =>
          rw [first?_append _ hSound.rest_ne hFirst, ← hFirst] at hSame
          exact hOther c hSame
      | none =>
          rw [first?_eq_none.mp hFirst, List.nil_append] at hSame
          rcases first?_tail w with hTail | hTail
          · rw [hTail] at hSame
            cases hSame
          · rw [hTail] at hSame
            cases hSame
            exact hClass
    have hOtherRun : (takeIf p).run u = .ok (none, u) := by
      rcases takeIf_run p u with ⟨c, hSame, hMember, -⟩ | ⟨-, hEqOther⟩
      · rw [hAbsent c hSame] at hMember
        cases hMember
      · exact hEqOther
    obtain ⟨b, final, hOtherFurther, hFinal, hRel⟩ := hAgree hCalm hInside u hAround
    exact ⟨b, final, by rw [run_bind_of_ok hOtherRun, hOtherFurther], hFinal, hRel⟩

/-- A sign is a class of one character. -/
theorem accept_eq (c : Char) :
    accept c = (do return (← takeIf (· == c)).isSome) := by
  funext s
  show (accept c).run s = (do return (← takeIf (· == c)).isSome : Reader Bool).run s
  rcases takeIf_run (· == c) s with ⟨d, hFirst, hSame, hEq⟩ | ⟨hOther, hEq⟩
  · rw [StateT.run_bind, hEq]
    have hSign : (Token.first? s.rest == some (.plain c)) = true := by
      rw [hFirst, beq_iff_eq, beq_iff_eq.mp hSame]
    rw [accept, run_bind_of_ok (peek_run s), if_pos hSign]
    simp only [StateT.run_bind]
    cases take.run s <;> rfl
  · rw [run_bind_of_ok hEq]
    refine accept_run_of_ne fun hFirst => ?_
    have hNot := hOther c hFirst
    simp at hNot

/-- A sign that is no parenthesis. -/
theorem embeds_accept {R : α → β → Prop} {c : Char} {f : Bool → Reader α}
    {f' : Bool → Reader β}
    (hSign : c ≠ '(') (hAbsent : Embeds w n inside R (f false) (f' false))
    (hThere : ∀ k, k < n → Embeds w k inside R (f true) (f' true)) :
    Embeds w n inside R (accept c >>= f) (accept c >>= f') := by
  rw [accept_eq, bind_assoc, bind_assoc]
  simp only [pure_bind]
  refine embeds_takeIf (by simpa using hSign.symm) hAbsent fun d k _ hLess => ?_
  exact hThere k hLess

theorem takeSome_succ (p : Char → Bool) (k : Nat) :
    takeSome p (k + 1) = (do
      match ← takeIf p with
      | some c => return c :: (← takeSome p k)
      | none => return []) := by
  funext s
  show (takeSome p (k + 1)).run s = StateT.run _ s
  rw [takeSome, run_bind_of_ok (peek_run s)]
  rcases takeIf_run p s with ⟨c, hFirst, hMember, hEq⟩ | ⟨hOther, hEq⟩
  · simp only [hFirst, hMember, if_true, StateT.run_bind, hEq]
    cases take.run s <;> rfl
  · rw [run_bind_of_ok hEq]
    split
    · rename_i c hFirst
      simp only [hOther c hFirst]
      rfl
    · rfl

/-- Characters of a class, with two limits: they are the same if the fragment
is no longer than the first one. -/
theorem embeds_takeSome {p : Char → Bool} (hClass : p '(' = false) {k k' : Nat}
    (hLimit : k = k' ∨ (n ≤ k ∧ k ≤ k')) :
    Embeds w n inside (fun a b => b = a) (takeSome p k) (takeSome p k') := by
  induction k generalizing n k' with
  | zero =>
      rcases hLimit with rfl | ⟨hShort, -⟩
      · exact embeds_pure rfl
      · cases k' with
        | zero => exact embeds_pure rfl
        | succ k' =>
            -- nothing is left of the fragment, so the greater limit is not needed
            have hMore : Embeds w n inside (fun a b => b = a) (takeSome p (k' + 1))
                (takeSome p (k' + 1)) := by
              rw [takeSome_succ]
              exact embeds_takeIf hClass (embeds_pure rfl) fun c m _ hLess => by omega
            intro s a after hSound hLength hRun
            refine hMore s a after hSound hLength ?_
            have hNil : s.rest = [] := List.length_eq_zero_iff.mp (by omega)
            have hNone : (takeIf p).run s = .ok (none, s) := by
              rw [takeIf, run_bind_of_ok (peek_run s), hNil]
              rfl
            rw [takeSome_succ, run_bind_of_ok hNone]
            exact hRun
  | succ k ih =>
      obtain ⟨j, rfl⟩ : ∃ j, k' = j + 1 := ⟨k' - 1, by omega⟩
      rw [takeSome_succ, takeSome_succ]
      refine embeds_takeIf hClass (embeds_pure rfl) fun c m _ hLess => ?_
      have hRest : Embeds w m inside (fun a b => b = a) (takeSome p k) (takeSome p j) :=
        ih (by omega)
      exact hRest.bind fun more => embeds_pure rfl

theorem embeds_takeAll {p : Char → Bool} (hClass : p '(' = false) :
    Embeds w n inside (fun a b => b = a) (takeAll p) (takeAll p) :=
  embeds_get fun _ _ _ _ hLonger _ =>
    embeds_takeSome hClass (.inr ⟨Nat.le_refl _, hLonger⟩)

end Embeds

end Reader

end Retag.Regex

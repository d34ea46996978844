import Retag.Proofs.Decimal.Comparing

/-!
# Stopwatches over several blocks

A stopwatch keeps two times, and nothing says which of them is in use.  Here
the answers are told without them, by the blocks that were seen so far: how
long the finished ones took, and when the open one began.

`Tells` has the rules, one for each kind of answer.  The end of a block shows
the length of that block, however many there were.  A duration is that of the
open block only while no block has been finished: from the first end on it is
the length of the last finished block, also inside the blocks after it, and
the clock is not read for it.

A run is followed with the readings that it takes from the clock, which the
answers do not show.  `Stopwatch.Follows` is the invariant.

## Main results

* `answer_timedSteps`, `step_timedSteps`, `reading_timedSteps`: the run that is
  followed is the one that is run.
* `step_tells`: one step keeps to the rules.
* `ended_reports`: the event at the end of a block.
* `stopwatch_follows_blocks`: all runs in which blocks begin and end in turn.
-/

namespace Retag.Log

open Decimal

/-! ## Runs with their readings -/

/-- Whether a step reads the clock. -/
def StopwatchStep.reads (w : Stopwatch) : StopwatchStep → Bool
  | .duration => w.isRunning
  | _ => true

/-- A step that was taken, the reading of the clock that it took, and what it
answered. -/
structure TimedStep where
  step : StopwatchStep
  reading : Option ℚ
  answer : StopwatchAnswer

/-- A step, at a clock. -/
def TimedStep.of (t : Timing) (step : StopwatchStep) (w : Stopwatch)
    (clock : List ℚ) :
    TimedStep :=
  ⟨step, if step.reads w then some (nextReading clock).1 else none,
    (step.run t w clock).1⟩

/-- The steps of a run. -/
def timedSteps (t : Timing) :
    List StopwatchStep → Stopwatch → List ℚ → List TimedStep
  | [], _, _ => []
  | step :: rest, w, clock =>
    .of t step w clock :: timedSteps t rest (step.run t w clock).2.1
      (step.run t w clock).2.2

/-- The first readings of a clock. -/
def firstReadings : Nat → List ℚ → List ℚ
  | 0, _ => []
  | n + 1, clock => (nextReading clock).1 :: firstReadings n (nextReading clock).2

section Runs

variable {t : Timing}

theorem answer_timedSteps (steps : List StopwatchStep) (w : Stopwatch)
    (clock : List ℚ) :
    (timedSteps t steps w clock).map TimedStep.answer =
      runStopwatch t steps w clock := by
  induction steps generalizing w clock with
  | nil => rfl
  | cons step steps ih => exact congrArg (_ :: ·) (ih _ _)

theorem step_timedSteps (steps : List StopwatchStep) (w : Stopwatch)
    (clock : List ℚ) :
    (timedSteps t steps w clock).map TimedStep.step = steps := by
  induction steps generalizing w clock with
  | nil => rfl
  | cons step steps ih => exact congrArg (step :: ·) (ih _ _)

/-- A step leaves the clock behind the reading that it takes. -/
theorem clock_run (step : StopwatchStep) (w : Stopwatch) (clock : List ℚ) :
    (step.run t w clock).2.2 = if step.reads w then (nextReading clock).2
    else clock := by
  cases step with
  | duration =>
      by_cases hRunning : w.isRunning = true
      · simp [StopwatchStep.run, StopwatchStep.reads, hRunning]
      · simp [StopwatchStep.run, StopwatchStep.reads, hRunning]
  | enter => rfl
  | exit fault => rfl

/-- The readings of a run are those of its clock, one after the other. -/
theorem reading_timedSteps (steps : List StopwatchStep) (w : Stopwatch)
    (clock : List ℚ) :
    ∃ n, (timedSteps t steps w clock).filterMap TimedStep.reading =
      firstReadings n clock := by
  induction steps generalizing w clock with
  | nil => exact ⟨0, rfl⟩
  | cons step steps ih =>
      obtain ⟨n, hReadings⟩ := ih (step.run t w clock).2.1 (step.run t w clock).2.2
      rw [clock_run] at hReadings
      simp only [timedSteps, List.filterMap_cons, clock_run, TimedStep.of]
      by_cases hReads : step.reads w = true
      · rw [if_pos hReads] at hReadings
        rw [if_pos hReads, if_pos hReads]
        exact ⟨n + 1, congrArg (_ :: ·) hReadings⟩
      · rw [if_neg hReads] at hReadings
        rw [if_neg hReads, if_neg hReads]
        exact ⟨n, hReadings⟩

end Runs

/-! ## Blocks -/

/-- Whether blocks begin and end in turn, from inside a block or from outside. -/
def Alternating : Bool → List StopwatchStep → Prop
  | _, [] => True
  | inside, .duration :: rest => Alternating inside rest
  | inside, .enter :: rest => inside = false ∧ Alternating true rest
  | inside, .exit _ :: rest => inside = true ∧ Alternating false rest

/-- The blocks that were seen. -/
structure Blocks where
  /-- How long the finished ones took, the last one first. -/
  finished : List ℚ
  /-- When the open one began. -/
  opened : Option ℚ

namespace Blocks

/-- Before the first step. -/
def unseen : Blocks := ⟨[], none⟩

/-- The blocks after one more step. -/
def note (b : Blocks) (m : TimedStep) : Blocks :=
  match m.step, m.reading, b.opened with
  | .enter, some now, _ => { b with opened := some now }
  | .exit _, some now, some start => ⟨(now - start) :: b.finished, none⟩
  | _, _, _ => b

def noteAll (b : Blocks) (history : List TimedStep) : Blocks := history.foldl note b

/-- What a step tells, by the blocks before it. -/
inductive Tells (t : Timing) (b : Blocks) : TimedStep → Prop
  | enter (now : ℚ) : Tells t b ⟨.enter, some now, .entered⟩
  | exit {start : ℚ} (now : ℚ) (fault : Option EngineFault)
      (hOpened : b.opened = some start) :
      Tells t b
        ⟨.exit fault, some now,
          .exited (t.ended ((now - start) * Stopwatch.perSecond) fault)⟩
  | running {start : ℚ} (now : ℚ) (hFirst : b.finished = [])
      (hOpened : b.opened = some start) :
      Tells t b
        ⟨.duration, some now,
          .duration (Stopwatch.nearest ((now - start) * Stopwatch.perSecond))⟩
  | last {length : ℚ} {earlier : List ℚ}
      (hFinished : b.finished = length :: earlier) :
      Tells t b
        ⟨.duration, none,
          .duration (Stopwatch.nearest (length * Stopwatch.perSecond))⟩
  | unused (hFinished : b.finished = []) (hOpened : b.opened = none) :
      Tells t b ⟨.duration, none, .duration (Stopwatch.nearest 0)⟩

end Blocks

/-- The times that a stopwatch keeps, by the blocks that were seen.  The start
stays when its block has ended, and the length stays when the next one begins:
both are there between blocks, and both are there inside a later block. -/
structure Stopwatch.Follows (w : Stopwatch) (b : Blocks) : Prop where
  length : w.elapsed = b.finished.head?
  began : ∀ start, b.opened = some start → w.start = some start
  used : b.finished ≠ [] → w.start.isSome = true
  unused : b.finished = [] → b.opened = none → w.start = none

section Steps

variable {t : Timing} {w : Stopwatch} {b : Blocks}

open Blocks

theorem unused_follows : Stopwatch.unused.Follows .unseen where
  length := rfl
  began := fun _ hOpened => absurd hOpened.symm (Option.some_ne_none _)
  used := fun hSome => absurd rfl hSome
  unused := fun _ _ => rfl

theorem duration_tells (hFollows : w.Follows b) (clock : List ℚ) :
    Tells t b (.of t .duration w clock) := by
  obtain ⟨start, elapsed⟩ := w
  cases hFinished : b.finished with
  | cons length earlier =>
      have hElapsed : elapsed = some length :=
        hFollows.length.trans (by rw [hFinished]; rfl)
      have hUsed : start.isSome = true := by
        apply hFollows.used
        rw [hFinished]
        exact List.cons_ne_nil _ _
      obtain ⟨began, hBegan⟩ := Option.isSome_iff_exists.mp hUsed
      subst hElapsed hBegan
      exact .last hFinished
  | nil =>
      have hElapsed : elapsed = none := hFollows.length.trans (by rw [hFinished]; rfl)
      cases hOpened : b.opened with
      | some began =>
          have hBegan : start = some began := hFollows.began began hOpened
          subst hElapsed hBegan
          exact .running _ hFinished hOpened
      | none =>
          have hUnused : start = none := hFollows.unused hFinished hOpened
          subst hElapsed hUnused
          exact .unused hFinished hOpened

/-- One step keeps to the rules, and goes on following the blocks. -/
theorem step_tells {step : StopwatchStep} {rest : List StopwatchStep}
    (hFollows : w.Follows b)
    (hAlternating : Alternating b.opened.isSome (step :: rest)) (clock : List ℚ) :
    Tells t b (.of t step w clock) ∧
      (step.run t w clock).2.1.Follows (b.note (.of t step w clock)) ∧
      Alternating (b.note (.of t step w clock)).opened.isSome rest := by
  cases step with
  | duration =>
      have hSame : (StopwatchStep.duration.run t w clock).2.1 = w := by
        simp only [StopwatchStep.run]
        split <;> rfl
      rw [hSame]
      exact ⟨duration_tells hFollows clock, hFollows, hAlternating⟩
  | enter =>
      obtain ⟨-, hRest⟩ := hAlternating
      refine ⟨.enter _, ⟨hFollows.length, ?_, fun _ => rfl, ?_⟩, hRest⟩
      · intro start hOpened
        exact hOpened
      · intro _ hOpened
        cases hOpened
  | exit fault =>
      obtain ⟨hInside, hRest⟩ := hAlternating
      obtain ⟨start, hOpened⟩ := Option.isSome_iff_exists.mp hInside
      have hStart : w.start = some start := hFollows.began start hOpened
      have hNote : b.note (.of t (.exit fault) w clock) =
          ⟨((nextReading clock).1 - start) :: b.finished, none⟩ := by
        simp only [note, TimedStep.of, StopwatchStep.reads, if_true, hOpened]
      have hLength : (nextReading clock).1 - w.start.getD 0 =
          (nextReading clock).1 - start := by
        rw [hStart]
        rfl
      rw [hNote]
      refine ⟨?_, ⟨?_, ?_, ?_, ?_⟩, hRest⟩
      · show Tells t b ⟨.exit fault, some (nextReading clock).1,
          .exited (t.ended
            ((w.exit (nextReading clock).1).duration (nextReading clock).1) fault)⟩
        rw [Stopwatch.duration_exit hStart]
        exact .exit _ fault hOpened
      · exact congrArg some hLength
      · intro _ hNone
        cases hNone
      · intro _
        exact Option.isSome_iff_exists.mpr ⟨start, hStart⟩
      · intro hNone
        cases hNone

/-- A run keeps to the rules at each of its steps. -/
theorem timedSteps_tell {steps : List StopwatchStep} {clock : List ℚ}
    {history later : List TimedStep} {m : TimedStep} (hFollows : w.Follows b)
    (hAlternating : Alternating b.opened.isSome steps)
    (hSteps : timedSteps t steps w clock = history ++ m :: later) :
    Tells t (b.noteAll history) m := by
  induction steps generalizing w b clock history with
  | nil => exact absurd hSteps.symm (by simp [timedSteps])
  | cons step steps ih =>
      obtain ⟨hTells, hNext, hRest⟩ :=
        step_tells (t := t) hFollows hAlternating clock
      cases history with
      | nil =>
          obtain ⟨hSame, -⟩ := List.cons.inj hSteps
          exact hSame ▸ hTells
      | cons first history =>
          obtain ⟨hSame, hMore⟩ := List.cons.inj hSteps
          subst hSame
          show Tells t ((b.note (.of t step w clock)).noteAll history) m
          exact ih hNext hRest hMore

end Steps

/-! ## The event at the end of a block -/

/-- What an event tells about a block that has ended: how long it took, if it
failed, and otherwise if that was longer than the limit. -/
structure Timing.Reports (t : Timing) (length : ℚ) (fault : Option EngineFault)
    (e : Event) :
    Prop where
  shows : e.fields.head? = some ("duration_ms", .float (Stopwatch.nearest length))
  error_iff : e.level = .error ↔ fault.isSome = true
  warning_iff : e.level = .warning ↔ fault = none ∧ t.limit.Below length
  debug_iff : e.level = .debug ↔ fault = none ∧ ¬ t.limit.Below length

theorem ended_reports (t : Timing) (length : ℚ) (fault : Option EngineFault) :
    t.Reports length fault (t.ended length fault) := by
  cases fault with
  | some fault => exact ⟨rfl, by simp [Timing.ended, Timing.failed],
      by simp [Timing.ended, Timing.failed], by simp [Timing.ended, Timing.failed]⟩
  | none =>
      have hLevel : (t.ended length none).level =
          if t.limit.below length then .warning else .debug := rfl
      by_cases hSlow : t.limit.Below length
      · rw [if_pos (Double.below_iff.mpr hSlow)] at hLevel
        exact ⟨rfl, by simp [hLevel], by simp [hLevel, hSlow],
          by simp [hLevel, hSlow]⟩
      · rw [if_neg fun hBelow => hSlow (Double.below_iff.mp hBelow)] at hLevel
        exact ⟨rfl, by simp [hLevel], by simp [hLevel, hSlow],
          by simp [hLevel, hSlow]⟩

/-! ## Runs -/

/-- A stopwatch tells of its blocks by the rules, in every run in which they
begin and end in turn, and every event is right about the length that it is
made for. -/
theorem stopwatch_follows_blocks (t : Timing) (steps : List StopwatchStep)
    (hAlternating : Alternating false steps) (clock : List ℚ) :
    (timedSteps t steps .unused clock).map TimedStep.answer =
      runStopwatch t steps .unused clock ∧
      (timedSteps t steps .unused clock).map TimedStep.step = steps ∧
      (∃ n, (timedSteps t steps .unused clock).filterMap TimedStep.reading =
        firstReadings n clock) ∧
      (∀ history m later, timedSteps t steps .unused clock = history ++ m :: later →
        Blocks.Tells t (Blocks.unseen.noteAll history) m) ∧
      ∀ length fault, t.Reports length fault (t.ended length fault) := by
  refine ⟨answer_timedSteps .., step_timedSteps .., reading_timedSteps .., ?_,
    ended_reports t⟩
  intro history m later hSteps
  exact timedSteps_tell unused_follows hAlternating hSteps

/-- A stopwatch that is used for two blocks, with the default limit. -/
theorem stopwatch_follows_blocks_reused :
    let t : Timing := ⟨"compile", Timing.defaultLimit, []⟩
    let steps := [.enter, .duration, .exit none, .enter, .duration, .exit none]
    Alternating false steps ∧
      (timedSteps t steps .unused [0, 1, 2, 3, 4]).map TimedStep.answer =
        runStopwatch t steps .unused [0, 1, 2, 3, 4] ∧
      ∀ history m later, timedSteps t steps .unused [0, 1, 2, 3, 4] =
        history ++ m :: later →
        Blocks.Tells t (Blocks.unseen.noteAll history) m := by
  have hAlternating : Alternating false
      [.enter, .duration, .exit none, .enter, .duration, .exit none] :=
    ⟨rfl, rfl, rfl, rfl, trivial⟩
  have hRun :=
    stopwatch_follows_blocks ⟨"compile", Timing.defaultLimit, []⟩ _ hAlternating
    [0, 1, 2, 3, 4]
  exact ⟨hAlternating, hRun.1, hRun.2.2.2.1⟩

/-- A duration is not that of the open block if a block was finished before
it: none of the readings is one by which it could be. -/
theorem later_blocks_show_the_last_length :
    ¬ ∀ (t : Timing) (steps : List StopwatchStep) (clock : List ℚ)
        (history later : List TimedStep) (m : TimedStep) (start : ℚ),
      Alternating false steps → clock.Pairwise (· ≤ ·) →
      timedSteps t steps .unused clock = history ++ m :: later →
      m.step = .duration →
      (Blocks.unseen.noteAll history).opened = some start →
      ∃ now ∈ clock,
        m.answer =
          .duration (Stopwatch.nearest ((now - start) * Stopwatch.perSecond)) := by
  intro hAll
  let t : Timing := ⟨"compile", Timing.defaultLimit, []⟩
  let first := Stopwatch.unused.enter 0
  have hOther : ∀ now ∈ ([0, 1, 2, 5 / 2] : List ℚ),
      Stopwatch.nearest ((1 - 0) * Stopwatch.perSecond) ≠
        Stopwatch.nearest ((now - 2) * Stopwatch.perSecond) := by
    decide +kernel
  obtain ⟨now, hNow, hAnswer⟩ :=
    hAll t [.enter, .exit none, .enter, .duration] [0, 1, 2, 5 / 2]
    [.of t .enter .unused [0, 1, 2, 5 / 2], .of t (.exit none) first [1, 2, 5 / 2],
      .of t .enter (first.exit 1) [2, 5 / 2]] []
    (.of t .duration ((first.exit 1).enter 2) [5 / 2]) 2
    ⟨rfl, rfl, rfl, trivial⟩ (by decide +kernel) rfl rfl rfl
  exact hOther now hNow (StopwatchAnswer.duration.inj hAnswer)

end Retag.Log

import Retag.Log.Scope
import Retag.Proofs.Table

/-!
# Scopes are lexical

A program with scopes keeps one name that every scope changes and puts back.
What it sees can be told without that name: the scopes around a step settle
what the step sees, and nothing that ran before it does.

`StepSees` and `StepsSee` are the rules for that.  They carry the names of the
scopes around a step, the innermost one first, and have no state: a rule for a
block puts the name of the block in front, and the steps behind the block are
read with the names from before it, whether the block ended well or with a
failure that was caught around it.  Running a program sees what the rules say
and leaves the journal as it was.

## Main results

* `withTemplate_shows`: the fields of an event.
* `stepsSee_runSteps`: a run keeps to the rules and gives the journal back.
* `StepsSee.unique`: the rules settle what is seen.
* `scopes_are_lexical`: running and the rules.
-/

namespace Retag.Log

/-! ## What is seen inside some scopes -/

/-- The name that holds inside some scopes, the innermost one first: that of
the innermost scope that has one. -/
def innermost (enclosing : List (Option String)) : Option String :=
  enclosing.findSome? id

@[simp] theorem innermost_none (enclosing : List (Option String)) :
    innermost (none :: enclosing) = innermost enclosing := rfl

@[simp] theorem innermost_some (name : String) (enclosing : List (Option String)) :
    innermost (some name :: enclosing) = some name := rfl

/-- Whether an event gets a name as the name of its template: there is one, it
is not empty, and the event has none of its own. -/
structure Gets (scope : Option String) (fields : List (String × Value))
    (name : String) :
    Prop where
  holds : scope = some name
  not_empty : name ≠ ""
  no_own : templateField ∉ fields.map Prod.fst

/-- What an event shows where a name holds: its fields, and the name behind
them if it gets it. -/
inductive Shows (scope : Option String) (fields : List (String × Value)) :
    List (String × Value) → Prop
  | named {name : String} (hGets : Gets scope fields name) :
      Shows scope fields (fields ++ [(templateField, .text name)])
  | plain (hNone : ∀ name, ¬ Gets scope fields name) : Shows scope fields fields

mutual

/-- What a step sees, and how it ends, inside some scopes. -/
inductive StepSees : List (Option String) → ScopeStep → Outcome → Prop
  | see {enclosing : List (Option String)} :
      StepSees enclosing .see ⟨[.name (innermost enclosing)], none⟩
  | event {enclosing : List (Option String)} {fields shown : List (String × Value)}
      (hShows : Shows (innermost enclosing) fields shown) :
      StepSees enclosing (.event fields) ⟨[.fields shown], none⟩
  | scope {enclosing : List (Option String)} {name : Option String}
      {steps : List ScopeStep} {o : Outcome}
      (hSteps : StepsSee (name :: enclosing) steps o) :
      StepSees enclosing (.scope name steps) o
  | fail {enclosing : List (Option String)} {text : String} :
      StepSees enclosing (.fail text) ⟨[], some text⟩
  | passed {enclosing : List (Option String)} {steps : List ScopeStep}
      {seen : List Sight} (hSteps : StepsSee enclosing steps ⟨seen, none⟩) :
      StepSees enclosing (.catching steps) ⟨seen, none⟩
  | caught {enclosing : List (Option String)} {steps : List ScopeStep}
      {seen : List Sight} {text : String}
      (hSteps : StepsSee enclosing steps ⟨seen, some text⟩) :
      StepSees enclosing (.catching steps) ⟨seen ++ [.caught text], none⟩

/-- What steps see one after the other, until one fails, inside some scopes. -/
inductive StepsSee : List (Option String) → List ScopeStep → Outcome → Prop
  | done {enclosing : List (Option String)} : StepsSee enclosing [] ⟨[], none⟩
  | stopped {enclosing : List (Option String)} {step : ScopeStep}
      {rest : List ScopeStep} {seen : List Sight} {text : String}
      (hStep : StepSees enclosing step ⟨seen, some text⟩) :
      StepsSee enclosing (step :: rest) ⟨seen, some text⟩
  | onward {enclosing : List (Option String)} {step : ScopeStep} {rest : List ScopeStep}
      {seen : List Sight} {o : Outcome}
      (hStep : StepSees enclosing step ⟨seen, none⟩)
      (hRest : StepsSee enclosing rest o) :
      StepsSee enclosing (step :: rest) ⟨seen ++ o.seen, o.failure⟩

end

/-! ## Events -/

theorem withTemplate_shows (scope : Option String) (fields : List (String × Value)) :
    Shows scope fields (withTemplate scope fields) := by
  cases scope with
  | none =>
      apply Shows.plain
      intro name hGets
      cases hGets.holds
  | some name =>
      by_cases hGets : Gets (some name) fields name
      · have hOwn : fields.lookup templateField = none :=
          lookup_eq_none_iff.mpr hGets.no_own
        have hName : name.isEmpty = false := by simpa using hGets.not_empty
        have hFields : withTemplate (some name) fields =
            fields ++ [(templateField, .text name)] := by
          unfold withTemplate
          simp [hOwn, hName]
        rw [hFields]
        exact .named hGets
      · have hFields : withTemplate (some name) fields = fields := by
          unfold withTemplate
          apply if_pos
          cases hName : name.isEmpty with
          | true => rfl
          | false =>
              cases hOwn : fields.lookup templateField with
              | some value => rfl
              | none =>
                  have hNe : name ≠ "" := by simpa using hName
                  exact absurd ⟨rfl, hNe, lookup_eq_none_iff.mp hOwn⟩ hGets
        rw [hFields]
        apply Shows.plain
        intro other hOther
        have hSame : name = other := Option.some.inj hOther.holds
        rw [← hSame] at hOther
        exact hGets hOther

theorem Shows.unique {scope : Option String}
    {fields first second : List (String × Value)}
    (hFirst : Shows scope fields first) (hSecond : Shows scope fields second) :
    first = second := by
  cases hFirst with
  | named hGets =>
      cases hSecond with
      | named hOther =>
          have hSame := hGets.holds.symm.trans hOther.holds
          rw [Option.some.inj hSame]
      | plain hNone => exact absurd hGets (hNone _)
  | plain hNone =>
      cases hSecond with
      | named hGets => exact absurd hGets (hNone _)
      | plain _ => rfl

/-! ## Runs keep to the rules -/

mutual

/-- Running a step sees what the rules say and gives the journal back. -/
theorem stepSees_run (step : ScopeStep) (enclosing : List (Option String)) (j : Journal)
    (hScope : j.scope = innermost enclosing) :
    StepSees enclosing step (step.run j).1 ∧ (step.run j).2 = j := by
  match step with
  | .see =>
      refine ⟨?_, rfl⟩
      show StepSees enclosing .see ⟨[.name j.scope], none⟩
      rw [hScope]
      exact .see
  | .event fields =>
      refine ⟨?_, rfl⟩
      apply StepSees.event
      rw [← hScope]
      exact withTemplate_shows j.scope fields
  | .scope none steps =>
      rw [← innermost_none] at hScope
      have hSteps := stepsSee_runSteps steps (none :: enclosing) j hScope
      exact ⟨.scope hSteps.1, hSteps.2⟩
  | .scope (some name) steps =>
      have hSteps := stepsSee_runSteps steps (some name :: enclosing)
        { j with scope := some name } (innermost_some name enclosing).symm
      refine ⟨.scope hSteps.1, ?_⟩
      show { (runSteps steps { j with scope := some name }).2 with
          scope := j.scope } = j
      rw [hSteps.2]
  | .fail text => exact ⟨.fail, rfl⟩
  | .catching steps =>
      have hSteps := stepsSee_runSteps steps enclosing j hScope
      refine ⟨?_, hSteps.2⟩
      show StepSees enclosing _ (runSteps steps j).1.catching
      have hSees := hSteps.1
      generalize (runSteps steps j).1 = o at hSees
      obtain ⟨seen, failure⟩ := o
      cases failure with
      | none => exact .passed hSees
      | some text => exact .caught hSees

theorem stepsSee_runSteps (steps : List ScopeStep) (enclosing : List (Option String))
    (j : Journal) (hScope : j.scope = innermost enclosing) :
    StepsSee enclosing steps (runSteps steps j).1 ∧ (runSteps steps j).2 = j := by
  match steps with
  | [] => exact ⟨.done, rfl⟩
  | step :: rest =>
      have hStep := stepSees_run step enclosing j hScope
      have hRest := stepsSee_runSteps rest enclosing j hScope
      rw [runSteps]
      generalize step.run j = answer at hStep
      obtain ⟨⟨seen, failure⟩, after⟩ := answer
      obtain ⟨hSees, rfl⟩ := hStep
      cases failure with
      | some text => exact ⟨.stopped hSees, rfl⟩
      | none => exact ⟨.onward hSees hRest.1, hRest.2⟩

end

/-! ## The rules settle what is seen -/

mutual

theorem StepSees.unique {enclosing : List (Option String)} {step : ScopeStep}
    {first second : Outcome} (hFirst : StepSees enclosing step first)
    (hSecond : StepSees enclosing step second) : first = second := by
  cases hFirst with
  | see =>
      cases hSecond
      rfl
  | event hShows =>
      cases hSecond with
      | event hOther => rw [hShows.unique hOther]
  | scope hSteps =>
      cases hSecond with
      | scope hOther => exact StepsSee.unique hSteps hOther
  | fail =>
      cases hSecond
      rfl
  | passed hSteps =>
      cases hSecond with
      | passed hOther => exact StepsSee.unique hSteps hOther
      | caught hOther => cases StepsSee.unique hSteps hOther
  | caught hSteps =>
      cases hSecond with
      | passed hOther => cases StepsSee.unique hSteps hOther
      | caught hOther =>
          cases StepsSee.unique hSteps hOther
          rfl

theorem StepsSee.unique {enclosing : List (Option String)} {steps : List ScopeStep}
    {first second : Outcome} (hFirst : StepsSee enclosing steps first)
    (hSecond : StepsSee enclosing steps second) : first = second := by
  cases hFirst with
  | done =>
      cases hSecond
      rfl
  | stopped hStep =>
      cases hSecond with
      | stopped hOther => exact StepSees.unique hStep hOther
      | onward hOther hRest => cases StepSees.unique hStep hOther
  | onward hStep hRest =>
      cases hSecond with
      | stopped hOther => cases StepSees.unique hStep hOther
      | onward hOther hMore =>
          cases StepSees.unique hStep hOther
          rw [StepsSee.unique hRest hMore]

end

/-- The answer of a program that ended in some way; behind all its scopes no
name is left. -/
def Outcome.answer (o : Outcome) : Except Failure (List Sight) :=
  match o.failure with
  | none => .ok (o.seen ++ [.name none])
  | some text => .error (.engine (.probe text))

/-- Running a program is reading it with its scopes.  Inside any scopes, steps
see exactly what the rules say and leave the journal as it was, the name in
scope included, however they end; every single step does so, too.  A whole
program, which no scope is around, answers what the rules say. -/
theorem scopes_are_lexical :
    (∀ (steps : List ScopeStep) (enclosing : List (Option String)) (j : Journal),
      let started : Journal := { j with scope := innermost enclosing }
      (∀ o, (runSteps steps started).1 = o ↔ StepsSee enclosing steps o) ∧
        (runSteps steps started).2 = started) ∧
    (∀ (step : ScopeStep) (enclosing : List (Option String)) (j : Journal),
      let started : Journal := { j with scope := innermost enclosing }
      (∀ o, (step.run started).1 = o ↔ StepSees enclosing step o) ∧
        (step.run started).2 = started) ∧
    ∀ steps, ∃ o, StepsSee [] steps o ∧ runProgram steps = o.answer := by
  refine ⟨?_, ?_, ?_⟩
  · intro steps enclosing j started
    obtain ⟨hSees, hAfter⟩ := stepsSee_runSteps steps enclosing started rfl
    refine ⟨fun o => ⟨?_, fun hOther => hSees.unique hOther⟩, hAfter⟩
    rintro rfl
    exact hSees
  · intro step enclosing j started
    obtain ⟨hSees, hAfter⟩ := stepSees_run step enclosing started rfl
    refine ⟨fun o => ⟨?_, fun hOther => hSees.unique hOther⟩, hAfter⟩
    rintro rfl
    exact hSees
  · intro steps
    obtain ⟨hSees, hAfter⟩ := stepsSee_runSteps steps [] .empty rfl
    refine ⟨_, hSees, ?_⟩
    unfold runProgram Outcome.answer
    generalize runSteps steps .empty = answer at hAfter ⊢
    obtain ⟨⟨seen, failure⟩, after⟩ := answer
    cases hAfter
    cases failure with
    | none => rfl
    | some text => rfl

end Retag.Log

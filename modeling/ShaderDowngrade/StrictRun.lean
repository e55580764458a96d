import ShaderDowngrade.Finished
import ShaderDowngrade.Rule.Postcondition
import ShaderDowngrade.Ledger.Basic

/-!
# Strict runs

A strict run checks the postcondition of each rule right after the rule, and the finished text at
the end. What a rule records is adopted into the ledger only if its postcondition holds, so that
the ledger never holds the entries of a failed step; the log of steps does hold the failed one.

## Rules of any kind

A strict run does not ask how a rule works. All that it needs is a name for the log, a way to apply
the rule, and a postcondition; what the rule records, and the errors that it may raise, are its own
affair. `RuleLike` says just that, and the three kinds of `Rule` are one instance. A rule may look
at the ledger that it is given, but all it can do to it is to add entries.
-/

namespace ShaderDowngrade

/-- What a strict run needs to know of rules, which raise errors of type `ε` when they cannot be
applied. -/
class RuleLike (ρ : Type) (ε : outParam Type) where
  /-- The name of a rule. -/
  name : ρ → String
  /-- The text that a rule leaves, and the entries that it adds to the ledger, oldest first. -/
  apply : ρ → Ledger → Stage → Text → Except ε (Text × List Entry)
  /-- What is wrong with a text that the rule has just left. -/
  violations : ρ → Stage → Text → List Violation

/-- What a run comes to, unless it has ended early. -/
def Run.result (r : Run) : Except TemplateError (Text × List Entry) :=
  match r.fault with
  | some fault => .error fault
  | none => .ok (r.text, r.entries)

/-- The rules of chains, which do not look at the ledger. -/
instance : RuleLike Rule TemplateError where
  name := Rule.name
  apply r _ stage text := (r.apply stage "" text).result
  violations := Rule.violations

/-- The log record of a step. -/
structure StepRecord where
  /-- The name of the step. -/
  step : String
  /-- The length of the text before the step. -/
  inputLength : Nat
  /-- The length of the text after the step. -/
  outputLength : Nat
  /-- The number of entries that the step made. -/
  entries : Nat
  /-- What was wrong after the step. -/
  violations : List Violation
deriving DecidableEq, Repr

/-- Why a strict run stops. -/
inductive StrictFault (ε : Type := TemplateError) where
  /-- Something was wrong after a step. -/
  | violated (step : String) (violations : List Violation)
  /-- A rule could not be applied. -/
  | inapplicable (fault : ε)
deriving DecidableEq, Repr

/-- The state of strict runs: what has been recorded, and which steps were taken. -/
structure StrictRun where
  /-- The adopted entries. -/
  ledger : Ledger := {}
  /-- The steps, oldest first. -/
  log : List StepRecord := []
deriving DecidableEq, Repr

namespace StrictRun

variable {ρ ε : Type}

/-- The name of the step that checks the finished text. -/
def finalStep : String := "validate_output"

/-- The state with one more step in its log. -/
def logged (s : StrictRun) (r : StepRecord) : StrictRun := { s with log := s.log ++ [r] }

/-- The outcome of a step that found the given violations. -/
def verdict (step : String) (violations : List Violation) (output : Text) :
    Except (StrictFault ε) Text :=
  if violations.isEmpty then .ok output else .error (.violated step violations)

/-- What is logged of the check of a finished text. -/
def finalRecord (stage : Stage) (text : Text) : StepRecord where
  step := finalStep
  inputLength := text.length
  outputLength := text.length
  entries := 0
  violations := Finished.check stage text

/-- Checks a finished text. -/
def finish (s : StrictRun) (stage : Stage) (text : Text) :
    StrictRun × Except (StrictFault ε) Text :=
  let record := finalRecord stage text
  (s.logged record, verdict record.step record.violations text)

variable [RuleLike ρ ε]

/-- What is logged of a rule that has left a text and made entries. A step without a label goes by
the name of its rule. -/
def recordOf (r : ρ) (stage : Stage) (label : String) (text output : Text)
    (entries : List Entry) : StepRecord where
  step := if label = "" then RuleLike.name r else label
  inputLength := text.length
  outputLength := output.length
  entries := entries.length
  violations := RuleLike.violations r stage output

/-- Runs one rule. -/
def step (s : StrictRun) (r : ρ) (stage : Stage) (label : String) (text : Text) :
    StrictRun × Except (StrictFault ε) Text :=
  match RuleLike.apply r s.ledger stage text with
  | .error fault => (s, .error (.inapplicable fault))
  | .ok (output, entries) =>
    let record := recordOf r stage label text output entries
    let s := s.logged record
    let s :=
      if record.violations.isEmpty then { s with ledger := s.ledger.recordAll entries } else s
    (s, verdict record.step record.violations output)

/-- Runs rules one after the other and checks the finished text. -/
def run (s : StrictRun) : List ρ → Stage → Text → StrictRun × Except (StrictFault ε) Text
  | [], stage, text => s.finish stage text
  | r :: rs, stage, text =>
    match s.step r stage "" text with
    | (s, .error fault) => (s, .error fault)
    | (s, .ok output) => run s rs stage output

/-! ## What a step comes to -/

section

variable {r : ρ} {stage : Stage} {text output : Text} {entries : List Entry} {fault : ε}

theorem step_of_error {s : StrictRun} (label : String)
    (h : RuleLike.apply r s.ledger stage text = .error fault) :
    s.step r stage label text = (s, .error (.inapplicable fault)) := by
  rw [step, h]

theorem step_of_ok {s : StrictRun} (label : String)
    (h : RuleLike.apply r s.ledger stage text = .ok (output, entries))
    (hv : RuleLike.violations r stage output = []) :
    s.step r stage label text =
      ({ log := s.log ++ [recordOf r stage label text output entries]
         ledger := s.ledger.recordAll entries }, .ok output) := by
  have hrecord : (recordOf r stage label text output entries).violations = [] := hv
  rw [step, h]
  dsimp only
  rw [hrecord]
  rfl

theorem step_of_violations {s : StrictRun} (label : String)
    (h : RuleLike.apply r s.ledger stage text = .ok (output, entries))
    (hv : RuleLike.violations r stage output ≠ []) :
    s.step r stage label text =
      (s.logged (recordOf r stage label text output entries),
        .error (.violated (recordOf r stage label text output entries).step
          (RuleLike.violations r stage output))) := by
  have hrecord : ¬ (recordOf r stage label text output entries).violations.isEmpty = true := by
    simpa [recordOf] using hv
  rw [step, h]
  dsimp only
  rw [verdict, if_neg hrecord, if_neg hrecord]
  rfl

/-- **All that a step can do.** The rule raises an error, and nothing is changed; or its text meets
the postcondition, and a record and entries are added; or it does not, and only a record is. -/
theorem step_cases (s : StrictRun) (r : ρ) (stage : Stage) (label : String) (text : Text) :
    (∃ fault, s.step r stage label text = (s, .error (.inapplicable fault))) ∨
      (∃ output entries, RuleLike.violations r stage output = [] ∧ s.step r stage label text =
        ({ log := s.log ++ [recordOf r stage label text output entries]
           ledger := s.ledger.recordAll entries }, .ok output)) ∨
      ∃ output entries, RuleLike.violations r stage output ≠ [] ∧ s.step r stage label text =
        (s.logged (recordOf r stage label text output entries),
          .error (.violated (recordOf r stage label text output entries).step
            (RuleLike.violations r stage output))) := by
  match h : RuleLike.apply r s.ledger stage text with
  | .error fault => exact .inl ⟨fault, step_of_error label h⟩
  | .ok (output, entries) =>
    by_cases hv : RuleLike.violations r stage output = []
    · exact .inr (.inl ⟨output, entries, hv, step_of_ok label h hv⟩)
    · exact .inr (.inr ⟨output, entries, hv, step_of_violations label h hv⟩)

end

/-! ## Steps of the rules of chains -/

section

variable {r : Rule} {stage : Stage} {text : Text}

theorem apply_of_fault {fault : TemplateError} (l : Ledger)
    (h : (r.apply stage "" text).fault = some fault) :
    RuleLike.apply r l stage text = .error fault := by
  change (r.apply stage "" text).result = .error fault
  rw [Run.result, h]

theorem apply_of_applied (l : Ledger) (h : (r.apply stage "" text).fault = none) :
    RuleLike.apply r l stage text =
      .ok ((r.apply stage "" text).text, (r.apply stage "" text).entries) := by
  change (r.apply stage "" text).result = _
  rw [Run.result, h]

end

end StrictRun

end ShaderDowngrade

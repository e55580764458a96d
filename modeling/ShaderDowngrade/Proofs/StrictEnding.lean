import ShaderDowngrade.Proofs.Rule.Output
import ShaderDowngrade.Proofs.StrictRefinement
import ShaderDowngrade.Proofs.Text.Order

/-!
# How strict runs end

The end of a strict run depends on the rules and the text only, not on what the run has recorded. It
is found rule by rule, and a strict conversion that is not refused is the plain one.

Main statements: `StrictRun.ending_cons`, the first rule either ends the run or hands its text on;
`Conversion.run_strict`, a strict conversion in terms of its ending; `Finished.check_eq` and
`Finished.checkOrder_eq`, what the checks of a finished text amount to.

## Why the record plays no part

A runner hands a rule the text and the stage, and never its ledger. So the outcome of a run does not
mention what had been recorded before, and since the outcome is unique, all runners end alike.
-/

namespace ShaderDowngrade

namespace StrictRun

variable {rules : List Rule} {r : Rule} {rs : List Rule} {stage : Stage} {source output : Text}

/-- How a strict run ends that has not recorded anything before. -/
def ending (rules : List Rule) (stage : Stage) (source : Text) : Except StrictFault Text :=
  (({} : StrictRun).run rules stage source).2

theorem run_snd_eq_ending (s : StrictRun) (rules : List Rule) (stage : Stage) (source : Text) :
    (s.run rules stage source).2 = ending rules stage source := by
  obtain ⟨added, -, hs⟩ := exists_outcome_unique s rules stage source
  obtain ⟨added', -, h⟩ := exists_outcome_unique {} rules stage source
  exact ((h added _).1 ((hs added _).2 ⟨rfl, rfl⟩)).2

theorem ending_nil (stage : Stage) (source : Text) :
    ending [] stage source = verdict finalStep (Finished.check stage source) source :=
  rfl

/-- The first rule ends the run if it leaves something wrong; otherwise its text goes on. -/
theorem ending_cons (h : r.Applicable stage) : ending (r :: rs) stage source =
    if r.violations stage (r.output stage source) = [] then
      ending rs stage (r.output stage source)
    else .error (.violated r.name (r.violations stage (r.output stage source))) := by
  by_cases hv : r.violations stage (r.output stage source) = []
  · rw [if_pos hv]
    obtain ⟨next, -, hrun⟩ := run_cons_of_smooth {} rs (h source) hv
    rw [ending, hrun, run_snd_eq_ending]
    rfl
  · rw [if_neg hv, ending, (run_cons_of_violations {} rs (h source) hv).2]
    rfl

theorem ending_cons_of_smooth (h : r.Applicable stage)
    (hv : r.violations stage (r.output stage source) = []) :
    ending (r :: rs) stage source = ending rs stage (r.output stage source) := by
  rw [ending_cons h, if_pos hv]

theorem ending_cons_of_not_admits (h : r.admits stage = false) :
    ending (r :: rs) stage source = ending rs stage source := by
  have hidle (t : Text) := Rule.idle_of_not_admits h (t := t)
  rw [ending_cons_of_smooth (Rule.applicable_of_not_admits h) (hidle _).2, (hidle source).1]

end StrictRun

open StrictRun (ending Outcome)

variable {rules : List Rule} {stage : Stage} {source output : Text}

/-- A strict run that ends well has left the text of the plain run, and recorded its entries. -/
theorem StrictRun.run_eq_of_ending_eq_ok (s : StrictRun)
    (h : ending rules stage source = .ok output) :
    (s.run rules stage source).1.ledger =
        s.ledger.recordAll (Rule.applyAll rules stage "" source).entries ∧
      output = (Rule.applyAll rules stage "" source).text := by
  obtain ⟨added, hledger, hunique⟩ := exists_outcome_unique s rules stage source
  have houtcome : Outcome rules stage source added (.ok output) :=
    (hunique _ _).2 ⟨rfl, by rw [run_snd_eq_ending, h]⟩
  cases houtcome with
  | finished =>
    rw [Rule.plainRun_length] at *
    exact ⟨hledger, rfl⟩

/-- **A strict conversion** is refused as its run ends, and is otherwise the plain conversion. -/
theorem Conversion.run_strict (rules : List Rule) (stage : Stage) (source : Text) :
    Conversion.run rules true stage source = (ending rules stage source).map fun _ ↦
      { source, output := (Rule.applyAll rules stage "" source).text, stage
        ledger := Ledger.recordAll { stage := some stage }
          (Rule.applyAll rules stage "" source).entries
        strict := true, ruleNames := rules.map Rule.name } := by
  have hsnd := StrictRun.run_snd_eq_ending { ledger := { stage := some stage } } rules stage source
  rw [Conversion.run, if_pos rfl]
  cases h : ending rules stage source with
  | error fault =>
    rw [h] at hsnd
    split
    · rename_i f heq
      rw [heq] at hsnd
      rw [show f = fault from Except.error.inj hsnd]
      rfl
    · rename_i heq
      rw [heq] at hsnd
      cases hsnd
  | ok output =>
    obtain ⟨hledger, rfl⟩ :=
      StrictRun.run_eq_of_ending_eq_ok { ledger := { stage := some stage } } h
    rw [h] at hsnd
    split
    · rename_i heq
      rw [heq] at hsnd
      cases hsnd
    · rename_i s text heq
      rw [heq] at hsnd hledger
      rw [show text = _ from Except.ok.inj hsnd, hledger]
      rfl

theorem Conversion.output_of_run_eq_ok {strict : Bool} {c : Conversion}
    (h : Conversion.run rules strict stage source = .ok c) :
    c.output = (Rule.applyAll rules stage "" source).text := by
  cases strict with
  | true =>
    rw [run_strict] at h
    cases hending : ending rules stage source with
    | error fault =>
      rw [hending] at h
      cases h
    | ok output =>
      rw [hending] at h
      rw [← Except.ok.inj h]
  | false =>
    cases hfault : (Rule.applyAll rules stage "" source).fault with
    | none =>
      rw [run_plain hfault] at h
      rw [← Except.ok.inj h]
    | some fault =>
      rw [run, if_neg Bool.false_ne_true] at h
      simp only [hfault] at h
      cases h

/-! ## The checks of a finished text -/

namespace Finished

variable {t : Text}

theorem insertDistinct_ne_nil (u : Text) (us : List Text) : insertDistinct u us ≠ [] := by
  cases us with
  | nil => simp [insertDistinct]
  | cons v vs =>
    rw [insertDistinct]
    split
    · simp
    · split <;> simp

theorem modernInputTypes_isEmpty (t : Text) :
    (modernInputTypes t).isEmpty = !modernInput.occursIn t := by
  rw [modernInputTypes]
  cases h : modernInput.allMatches t with
  | nil => simpa using (modernInput.allMatches_eq_nil_iff t).1 h
  | cons m ms =>
    have hoccurs : modernInput.occursIn t = true := by
      by_contra hnot
      rw [(modernInput.allMatches_eq_nil_iff t).2 (by simpa using hnot)] at h
      cases h
    rw [hoccurs, List.map_cons, List.foldr_cons]
    simpa using insertDistinct_ne_nil _ _

/-- In a text without the modern spellings, only the outputs and the order can be wrong. -/
theorem check_eq (hversion : Text.includes t "version 300 es".toList = false)
    (hcube : Text.includes t "czm_textureCube".toList = false)
    (hsampling : Text.includes t "texture(".toList = false)
    (hinputs : modernInput.occursIn t = false) (stage : Stage) :
    check stage t = checkOutputs stage t ++ checkOrder t := by
  have hnone : (modernInputTypes t).isEmpty = true := by
    rw [modernInputTypes_isEmpty, hinputs, Bool.not_false]
  simp only [check, checkVersion, checkSampling, checkInputs, hnone, hversion, hcube, hsampling]
  rfl

theorem checkOrder_eq (t : Text) : checkOrder t =
    flag (Text.startsBefore drawBuffersDirective.toList fragDepthDirective.toList t)
      .directiveOrder := by
  rw [checkOrder, Text.startsBefore]
  cases Text.indexOf? t fragDepthDirective.toList with
  | none => cases Text.indexOf? t drawBuffersDirective.toList <;> rfl
  | some j => cases Text.indexOf? t drawBuffersDirective.toList <;> rfl

end Finished

end ShaderDowngrade

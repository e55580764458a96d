import ShaderDowngrade.StrictRun

/-!
# Conversions

A conversion takes a source through a chain of rules, strictly or not, and keeps what is needed to
report on it.
-/

namespace ShaderDowngrade

/-- A source that has gone through a chain. -/
structure Conversion where
  /-- The text before. -/
  source : Text
  /-- The text after. -/
  output : Text
  /-- The stage of the source. -/
  stage : Stage
  /-- What the rules did. -/
  ledger : Ledger
  /-- Whether the run was strict. -/
  strict : Bool
  /-- The names of the rules, in order. -/
  ruleNames : List String
deriving DecidableEq, Repr

namespace Conversion

/-- Whether the text is another one than before. -/
def changed (c : Conversion) : Bool := c.output != c.source

/-- The directives that were put in front of the text, top line first. -/
def directives (c : Conversion) : List CodeString := c.ledger.directives

/-- The names of the rules that took effect. -/
def firedRules (c : Conversion) : List CodeString := c.ledger.firedNames

/-- Takes a source through the rules. -/
def run (rules : List Rule) (strict : Bool) (stage : Stage) (source : Text) :
    Except StrictFault Conversion :=
  let conversion (output : Text) (ledger : Ledger) : Conversion :=
    { source, output, stage, ledger, strict, ruleNames := rules.map Rule.name }
  let empty : Ledger := { stage := some stage }
  if strict then
    match StrictRun.run { ledger := empty } rules stage source with
    | (_, .error fault) => .error fault
    | (s, .ok output) => .ok (conversion output s.ledger)
  else
    let r := Rule.applyAll rules stage "" source
    match r.fault with
    | some fault => .error (.inapplicable fault)
    | none => .ok (conversion r.text (empty.recordAll r.entries))

/-- If all rules can be applied, then a plain conversion gives what they leave and record. -/
theorem run_plain {rules : List Rule} {stage : Stage} {source : Text}
    (h : (Rule.applyAll rules stage "" source).fault = none) :
    run rules false stage source = .ok
      { source, output := (Rule.applyAll rules stage "" source).text, stage
        ledger := ⟨some stage, (Rule.applyAll rules stage "" source).entries⟩
        strict := false, ruleNames := rules.map Rule.name } := by
  simp [run, h, Ledger.recordAll]

end Conversion

/-- The source as GLSL ES 1.00. -/
def downgrade (stage : Stage) (source : Text) : Text :=
  (Rule.applyAll Chain.standard stage "" source).text

end ShaderDowngrade

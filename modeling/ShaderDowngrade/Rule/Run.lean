import ShaderDowngrade.Rule.Basic
import ShaderDowngrade.Entry.Basic

/-!
# Running rules

A run takes a text through rules and records what each of them did. It ends early if a rule cannot
be applied, which happens when the template of a substitution refers to a group that its pattern
does not have; what was recorded until then stays recorded.

Runs are glued together by `Run.andThen`, and a list of rules is run rule by rule.

Main statement: `Rule.apply_of_not_admits`, a rule of any kind that does not run at a stage records
that, and nothing else happens.
-/

namespace ShaderDowngrade

/-- What a run has come to. -/
structure Run where
  /-- What was recorded, oldest first. -/
  entries : List Entry
  /-- The text as it stands. -/
  text : Text
  /-- Why the run ended early, if it did. -/
  fault : Option TemplateError := none
deriving DecidableEq, Repr

namespace Run

/-- The run that continues with `next` unless it has ended early. -/
def andThen (r : Run) (next : Text → Run) : Run :=
  match r.fault with
  | some _ => r
  | none => { next r.text with entries := r.entries ++ (next r.text).entries }

@[simp] theorem andThen_of_ok (entries : List Entry) (text : Text) (next : Text → Run) :
    andThen ⟨entries, text, none⟩ next =
      { next text with entries := entries ++ (next text).entries } := rfl

end Run

/-- A prepended directive is followed by a newline and one space. -/
def directiveSeparator : Text := ['\n', ' ']

/-- The directive put in front of the text. -/
def prependDirective (directive : String) (text : Text) : Text :=
  directive.toList ++ directiveSeparator ++ text

/-- Offers a text to a substitution. -/
def Substitution.apply (r : Substitution) (stage : Stage) (group : String) (text : Text) : Run :=
  let entry : Entry := { rule := r.name, gate := r.gate, group, description := r.describe }
  if r.gate.admits stage then
    match Template.read r.pattern.expr.groupCount r.replacement.toList with
    | .error fault => ⟨[], text, some fault⟩
    | .ok template =>
      let (output, count) := r.pattern.substitute template text
      let skip := if count = 0 then Skip.noMatch else Skip.none
      ⟨[{ entry with fired := 0 < count, matchCount := count, skip }], output, none⟩
  else ⟨[{ entry with skip := .stageMismatch }], text, none⟩

/-- Offers a text to a directive that may be put in front of it. -/
def Prepend.apply (r : Prepend) (stage : Stage) (group : String) (text : Text) : Run :=
  let entry : Entry := { rule := r.name, gate := r.gate, group, description := r.describe }
  if r.gate.admits stage then
    ⟨[{ entry with fired := true, matchCount := 1, inserted := r.directive }],
      prependDirective r.directive text, none⟩
  else ⟨[{ entry with skip := .stageMismatch }], text, none⟩

namespace Rule

mutual

/-- Offers a text to a rule that runs inside the group of the given name. -/
def apply : Rule → Stage → (outer : String) → Text → Run
  | .substitute r, stage, outer, text => r.apply stage outer text
  | .prepend r, stage, outer, text => r.apply stage outer text
  | .group name probe stageGate description rules, stage, outer, text =>
    let entry : Entry :=
      { rule := name, gate := .contentProbe, group := outer
        description := (Rule.group name probe stageGate description rules).describe }
    if stageGate.admits stage then
      let hits := probe.count text
      if hits = 0 then ⟨[{ entry with skip := .probeFailed }], text, none⟩
      else
        Run.andThen ⟨[{ entry with fired := true, matchCount := hits }], text, none⟩
          (applyAll rules stage name)
    else ⟨[{ entry with skip := .stageMismatch }], text, none⟩

/-- Offers a text to rules one after the other, each of which gets what the one before it left. -/
def applyAll : List Rule → Stage → (outer : String) → Text → Run
  | [], _, _, text => ⟨[], text, none⟩
  | r :: rs, stage, outer, text => (r.apply stage outer text).andThen (applyAll rs stage outer)

end

theorem apply_of_not_admits {r : Rule} {stage : Stage} (h : r.admits stage = false)
    (outer : String) (text : Text) :
    r.apply stage outer text =
      ⟨[{ rule := r.name, gate := r.gate, group := outer, description := r.describe
          skip := .stageMismatch }], text, none⟩ := by
  have hgate : ¬ r.stageGate.admits stage = true := Bool.eq_false_iff.1 h
  cases r with
  | substitute r => exact if_neg hgate
  | prepend r => exact if_neg hgate
  | group name probe stageGate description rules => exact if_neg hgate

end Rule

end ShaderDowngrade

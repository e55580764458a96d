import ShaderDowngrade.Rule.Run

/-!
# Postconditions of rules

What must hold of a text right after a rule has run on it: a substitution leaves no match of the
pattern it forbids, and a prepended directive is in the text. Of a group, the postconditions of
its rules must hold, directives excepted, since a group need not have put them there. A rule that
does not run at the stage has no postcondition.
-/

namespace ShaderDowngrade

def Substitution.violations (r : Substitution) (stage : Stage) (text : Text) : List Violation :=
  match r.forbids with
  | none => []
  | some p =>
    if r.gate.admits stage && p.occursIn text then [.patternPresent r.name p.spelling] else []

def Prepend.violations (r : Prepend) (stage : Stage) (text : Text) : List Violation :=
  if r.gate.admits stage && !Text.includes text r.directive.toList then
    [.directiveMissing r.name r.directive]
  else []

namespace Rule

mutual

/-- What is wrong with a text that the rule has just left. -/
def violations : Rule → Stage → Text → List Violation
  | .substitute r, stage, text => r.violations stage text
  | .prepend r, stage, text => r.violations stage text
  | .group _ _ stageGate _ rules, stage, text =>
    if stageGate.admits stage then violationsInGroup rules stage text else []

/-- What is wrong with a text that a group of the rules has just left. -/
def violationsInGroup : List Rule → Stage → Text → List Violation
  | [], _, _ => []
  | .prepend _ :: rs, stage, text => violationsInGroup rs stage text
  | r :: rs, stage, text => r.violations stage text ++ violationsInGroup rs stage text

end

end Rule

end ShaderDowngrade

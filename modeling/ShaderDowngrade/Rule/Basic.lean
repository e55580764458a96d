import ShaderDowngrade.Gate
import ShaderDowngrade.Pattern.Literal
import ShaderDowngrade.Pattern.Template
import ShaderDowngrade.Violation

/-!
# Rules

There are three kinds of rules. A substitution replaces every match of a pattern, a prepended
directive is a line put in front of the text, and a group runs its rules one after the other, but
only if its probe matches the text that it is offered. Groups may hold groups.
-/

namespace ShaderDowngrade

/-- A rule that replaces every match of a pattern. -/
structure Substitution where
  /-- The name of the rule. -/
  name : String
  /-- What is replaced. -/
  pattern : Pattern
  /-- The template, as written, of what takes its place. -/
  replacement : String
  /-- When the rule runs. -/
  gate : Gate := .always
  /-- What must not match afterwards. -/
  forbids : Option Pattern := none
  /-- What the rule does, in words; empty to let the rule describe itself. -/
  description : String := ""

/-- A rule that puts a directive in front of the text. -/
structure Prepend where
  /-- The name of the rule. -/
  name : String
  /-- The line that is put in front. -/
  directive : String
  /-- When the rule runs. -/
  gate : Gate := .always
  /-- What the rule does, in words; empty to let the rule describe itself. -/
  description : String := ""

/-- A rule. -/
inductive Rule where
  | substitute (r : Substitution)
  | prepend (r : Prepend)
  /-- A group of rules. The stage gate decides first and the probe second. -/
  | group (name : String) (probe : Pattern) (stageGate : Gate) (description : String)
    (rules : List Rule)

/-- The description, or the other text if there is none. -/
def describedOr (description other : String) : String :=
  if description = "" then other else description

namespace Substitution

/-- Builds a substitution from written patterns. A literal pattern stands for itself, and an empty
forbidden pattern forbids nothing. -/
def ofWritten (name pattern replacement : String) (gate : Gate) (isLiteral : Bool)
    (forbids description : String) : Except PatternError Substitution := do
  let pattern ←
    if isLiteral then .ok (Pattern.literal pattern.toList) else Pattern.read pattern
  let forbids ← if forbids = "" then .ok none else (Pattern.read forbids).map some
  return { name, pattern, replacement, gate, forbids, description }

def describe (r : Substitution) : String :=
  describedOr r.description
    ("Replace /" ++ r.pattern.spelling ++ "/ with " ++ quoted r.replacement)

end Substitution

def Prepend.describe (r : Prepend) : String :=
  describedOr r.description ("Prepend " ++ quoted r.directive)

namespace Rule

def name : Rule → String
  | .substitute r => r.name
  | .prepend r => r.name
  | .group name _ _ _ _ => name

/-- The gate that entries show. A group goes by its probe. -/
def gate : Rule → Gate
  | .substitute r => r.gate
  | .prepend r => r.gate
  | .group .. => .contentProbe

/-- The gate that decides about stages. -/
def stageGate : Rule → Gate
  | .substitute r => r.gate
  | .prepend r => r.gate
  | .group _ _ stageGate _ _ => stageGate

/-- Whether the rule runs at a stage. -/
def admits (r : Rule) (stage : Stage) : Bool := r.stageGate.admits stage

mutual

/-- What the rule does, in words. -/
def describe : Rule → String
  | .substitute r => r.describe
  | .prepend r => r.describe
  | .group _ probe _ description rules =>
    describedOr description
      ("If /" ++ probe.spelling ++ "/ matches: " ++ "; ".intercalate (describeAll rules))

/-- What the rules do, in words. -/
def describeAll : List Rule → List String
  | [] => []
  | r :: rs => r.describe :: describeAll rs

end

end Rule

end ShaderDowngrade

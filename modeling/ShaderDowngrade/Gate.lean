import ShaderDowngrade.Stage

/-!
# Gates

A gate says when a rule runs: at both stages, at one of them, or after a look at the content. The
last kind is what groups of rules carry; as a gate of a rule on its own it admits no stage.
-/

namespace ShaderDowngrade

/-- When a rule runs. -/
inductive Gate where
  | always
  | fragmentOnly
  | vertexOnly
  /-- The content decides. -/
  | contentProbe
deriving DecidableEq, Repr

namespace Gate

def all : List Gate := [.always, .fragmentOnly, .vertexOnly, .contentProbe]

def name : Gate → String
  | .always => "Always"
  | .fragmentOnly => "FragmentOnly"
  | .vertexOnly => "VertexOnly"
  | .contentProbe => "ContentProbe"

/-- The gate of a name. -/
def ofName? (s : String) : Option Gate := all.find? (·.name = s)

/-- Whether the gate lets a stage pass. -/
def admits : Gate → Stage → Bool
  | .always, _ => true
  | .fragmentOnly, s => s == .fragment
  | .vertexOnly, s => s == .vertex
  | .contentProbe, _ => false

theorem ofName?_name (g : Gate) : ofName? g.name = some g := by cases g <;> decide

end Gate

end ShaderDowngrade

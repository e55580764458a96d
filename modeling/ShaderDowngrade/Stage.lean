import ShaderDowngrade.Path
import ShaderDowngrade.Text.Lowercase

/-!
# Shader stages

A source belongs to the vertex or to the fragment stage. The stage is given, or told from the
suffix of a file name; it is never guessed from the source.
-/

namespace ShaderDowngrade

/-- The stage that a source runs in. -/
inductive Stage where
  | vertex
  | fragment
deriving DecidableEq, Repr

namespace Stage

def name : Stage → String
  | .vertex => "vertex"
  | .fragment => "fragment"

/-- The stage of a name. -/
def ofName? (s : String) : Option Stage :=
  if s = "vertex" then some .vertex else if s = "fragment" then some .fragment else none

def isFragment : Stage → Bool
  | .vertex => false
  | .fragment => true

def ofIsFragment (isFragment : Bool) : Stage := if isFragment then .fragment else .vertex

/-- The file suffixes of each stage. -/
def suffixes : Stage → List String
  | .vertex => [".vert", ".vs", ".vsh"]
  | .fragment => [".frag", ".fs", ".fsh"]

/-- The stage that a suffix tells. Case does not matter. -/
def ofSuffix? (suffix : Text) : Option Stage :=
  let lower := String.ofList (Text.lowercase suffix)
  if lower ∈ suffixes .fragment then some .fragment
  else if lower ∈ suffixes .vertex then some .vertex
  else none

/-- The stage that a file name tells. -/
def ofPath? (p : Path) : Option Stage := ofSuffix? p.suffix

theorem ofName?_name (s : Stage) : ofName? s.name = some s := by cases s <;> decide

end Stage

end ShaderDowngrade

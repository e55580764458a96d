import ShaderDowngrade.Gate
import ShaderDowngrade.Json.Basic

/-!
# Entries

An entry records that a rule was offered a text, and what came of it. Entries are values: nothing
changes one once it is made. Its names and descriptions are sequences of code points, for an entry
that is read from JSON may have any.
-/

namespace ShaderDowngrade

/-- Why a rule did nothing. -/
inductive Skip where
  /-- It did something. -/
  | none
  /-- Its gate does not admit the stage. -/
  | stageMismatch
  /-- The probe of the group does not match. -/
  | probeFailed
  /-- Its pattern does not match. -/
  | noMatch
deriving DecidableEq, Repr

namespace Skip

def all : List Skip := [.none, .stageMismatch, .probeFailed, .noMatch]

def name : Skip → String
  | .none => "none"
  | .stageMismatch => "stage_mismatch"
  | .probeFailed => "probe_failed"
  | .noMatch => "no_match"

/-- The reason of a name. -/
def ofName? (s : String) : Option Skip := all.find? (·.name = s)

theorem ofName?_name (r : Skip) : ofName? r.name = some r := by cases r <;> decide

end Skip

/-- The record of one application of a rule. -/
structure Entry where
  /-- The name of the rule. -/
  rule : CodeString
  /-- When the rule runs. -/
  gate : Gate := .always
  /-- The name of the group that the rule ran in, empty at the top. -/
  group : CodeString := ""
  /-- Whether the rule took effect. -/
  fired : Bool := false
  /-- The number of matches. -/
  matchCount : Int := 0
  /-- Why it did not. -/
  skip : Skip := .none
  /-- The directive that was put in front of the text. -/
  inserted : CodeString := ""
  /-- What the rule does, in words. -/
  description : CodeString := ""
deriving DecidableEq, Repr

namespace Entry

/-- The entry as a JSON object, with its fields in the order of a trace. -/
def toJson (e : Entry) : Json :=
  .obj [("rule", .str e.rule), ("condition", .str e.gate.name), ("group", .str e.group),
    ("fired", .bool e.fired), ("match_count", .int e.matchCount), ("skip_reason", .str e.skip.name),
    ("inserted", .str e.inserted), ("description", .str e.description)]

/-- The entry as a JSON object, with its fields in alphabetical order. -/
def toSortedJson (e : Entry) : Json :=
  .obj [("condition", .str e.gate.name), ("description", .str e.description),
    ("fired", .bool e.fired), ("group", .str e.group), ("inserted", .str e.inserted),
    ("match_count", .int e.matchCount), ("rule", .str e.rule), ("skip_reason", .str e.skip.name)]

end Entry

end ShaderDowngrade

import ShaderDowngrade.Json.Basic

/-!
# Unknown names

Stages, gates and reasons for skipping are written by name. A value that is the name of none of
them is shown in the message about it.
-/

namespace ShaderDowngrade

/-- What a name should have named. -/
inductive Nameable where
  | stage
  | gate
  | skip
deriving DecidableEq, Repr

def Nameable.title : Nameable → String
  | .stage => "ShaderKind"
  | .gate => "RuleCondition"
  | .skip => "SkipReason"

/-- A value that names nothing of the kind. -/
structure UnknownName where
  /-- What it should have named. -/
  what : Nameable
  /-- The value. -/
  value : Json

def UnknownName.message (u : UnknownName) : String :=
  u.value.shown ++ " is not a valid " ++ u.what.title

end ShaderDowngrade

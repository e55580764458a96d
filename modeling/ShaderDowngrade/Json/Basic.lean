import ShaderDowngrade.Number.Shortest
import ShaderDowngrade.Text.CodeString

/-!
# JSON values

Objects keep their fields in order. Integers have any size; other numbers are double precision,
and the three values that are no finite number count as numbers too. Strings are sequences of code
points, since nothing keeps a lone surrogate out of them.
-/

namespace ShaderDowngrade

/-- A JSON value. -/
inductive Json where
  | null
  | bool (b : Bool)
  | int (n : Int)
  | float (x : Binary64)
  | str (s : CodeString)
  | arr (items : List Json)
  | obj (fields : List (CodeString × Json))

namespace Json

/-- The field of an object; nothing for other values. -/
def field? (name : String) : Json → Option Json
  | .obj fields => fields.lookup (name : CodeString)
  | _ => none

/-- The fields with `name` set to `value`: in its old place if there is one, else at the end. -/
def setField (name : CodeString) (value : Json) :
    List (CodeString × Json) → List (CodeString × Json)
  | [] => [(name, value)]
  | (n, v) :: fields =>
    if n = name then (name, value) :: fields else (n, v) :: setField name value fields

/-- The object with the given fields, of which a later one overrides an earlier one of the same
name. -/
def ofFields (fields : List (CodeString × Json)) : Json :=
  .obj (fields.foldl (fun acc (name, value) ↦ setField name value acc) [])

mutual

/-- A value as messages show it: with `None`, `True` and `False`, single quotes, and a space after
commas and colons. -/
def shown : Json → String
  | .null => "None"
  | .bool b => if b then "True" else "False"
  | .int n => toString n
  | .float x => x.toText
  | .str s => s.quoted
  | .arr items => "[" ++ ", ".intercalate (shownItems items) ++ "]"
  | .obj fields => "\x7b" ++ ", ".intercalate (shownFields fields) ++ "\x7d"

/-- The values of a list as messages show them. -/
def shownItems : List Json → List String
  | [] => []
  | item :: items => item.shown :: shownItems items

/-- The fields of an object as messages show them. -/
def shownFields : List (CodeString × Json) → List String
  | [] => []
  | (name, value) :: fields => (name.quoted ++ ": " ++ value.shown) :: shownFields fields

end

end Json

end ShaderDowngrade

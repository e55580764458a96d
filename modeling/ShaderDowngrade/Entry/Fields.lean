import ShaderDowngrade.Entry.Basic
import ShaderDowngrade.Entry.WrittenInt

/-!
# Entries from fields

An entry is built from named JSON values. Fields that it does not know are ignored, fields that
are missing take their defaults (only the rule has none), and the values are taken leniently:
numbers and words stand for truth values, and texts, truth values and whole floating-point numbers
for integers. All faulty fields are reported, in the order in which an entry declares them.

Main statement: `Entry.ofFields_toJson`, the fields of an entry give the entry back.
-/

namespace ShaderDowngrade

/-- What is wrong with a field. -/
inductive FieldFault where
  /-- The field is required. -/
  | missing
  /-- A string is expected. -/
  | notString
  /-- A text is expected, but the string holds a lone surrogate. -/
  | notText
  /-- The name of a gate is expected. -/
  | notGate
  /-- The name of a reason for skipping is expected. -/
  | notSkip
  /-- The value, though a string or a number, stands for no truth value. -/
  | unclearBool
  /-- A truth value is expected. -/
  | notBool
  /-- The string writes no integer. -/
  | unclearInt
  /-- The integer is too long to be read, or too far from zero for a floating-point number. -/
  | longInt
  /-- The number has a fractional part. -/
  | fractional
  /-- The number is not finite. -/
  | notFinite
  /-- An integer is expected. -/
  | notInt
  /-- Entries do not change. -/
  | frozen
deriving DecidableEq, Repr

namespace FieldFault

/-- The short name of the fault. -/
def code : FieldFault → String
  | .missing => "missing"
  | .notString => "string_type"
  | .notText => "string_unicode"
  | .notGate | .notSkip => "enum"
  | .unclearBool => "bool_parsing"
  | .notBool => "bool_type"
  | .unclearInt => "int_parsing"
  | .longInt => "int_parsing_size"
  | .fractional => "int_from_float"
  | .notFinite => "finite_number"
  | .notInt => "int_type"
  | .frozen => "frozen_instance"

/-- Names as a choice: quoted, with commas between them and an "or" before the last. -/
def choice : List String → String
  | [] => ""
  | [a] => quoted a
  | [a, b] => quoted a ++ " or " ++ quoted b
  | a :: rest => quoted a ++ ", " ++ choice rest

/-- The fault in words. -/
def message : FieldFault → String
  | .missing => "Field required"
  | .notString => "Input should be a valid string"
  | .notText =>
    "Input should be a valid string, unable to parse raw data as a unicode string"
  | .notGate => "Input should be " ++ choice (Gate.all.map Gate.name)
  | .notSkip => "Input should be " ++ choice (Skip.all.map Skip.name)
  | .unclearBool => "Input should be a valid boolean, unable to interpret input"
  | .notBool => "Input should be a valid boolean"
  | .unclearInt => "Input should be a valid integer, unable to parse string as an integer"
  | .longInt => "Unable to parse input string as an integer, exceeded maximum size"
  | .fractional => "Input should be a valid integer, got a number with a fractional part"
  | .notFinite => "Input should be a finite number"
  | .notInt => "Input should be a valid integer"
  | .frozen => "Instance is frozen"

end FieldFault

/-- A fault and the field that has it. -/
structure FieldError where
  /-- The name of the field. -/
  field : String
  /-- What is wrong with it. -/
  fault : FieldFault
deriving DecidableEq, Repr

namespace Entry

/-! ## Single values -/

def stringValue : Json → Except FieldFault CodeString
  | .str s => .ok s
  | _ => .error .notString

/-- A string that has to be a text, read by `value`. -/
def textValue {α : Type} (s : CodeString) (value : String → Except FieldFault α) :
    Except FieldFault α :=
  match s.toString? with
  | some s => value s
  | none => .error .notText

def gateValue : Json → Except FieldFault Gate
  | .str s => textValue s fun s ↦ (Gate.ofName? s).elim (.error .notGate) .ok
  | _ => .error .notGate

def skipValue : Json → Except FieldFault Skip
  | .str s => textValue s fun s ↦ (Skip.ofName? s).elim (.error .notSkip) .ok
  | _ => .error .notSkip

/-- The words for truth values, in lower case. -/
def boolWords : List (String × Bool) :=
  [("0", false), ("off", false), ("f", false), ("false", false), ("n", false), ("no", false),
    ("1", true), ("on", true), ("t", true), ("true", true), ("y", true), ("yes", true)]

/-- The truth value that a number stands for. -/
def bit (n : Int) : Except FieldFault Bool :=
  if n = 0 then .ok false else if n = 1 then .ok true else .error .unclearBool

def boolValue : Json → Except FieldFault Bool
  | .bool b => .ok b
  | .str s =>
    textValue s fun s ↦ (boolWords.lookup (s.map Char.toLower)).elim (.error .unclearBool) .ok
  | .int n => if -Int.pow 2 63 ≤ n ∧ n < Int.pow 2 63 then bit n else .error .notBool
  | .float x =>
    match x.toInt? with
    | some n => if n.natAbs < Nat.pow 2 63 then bit n else .error .notBool
    | none => .error .notBool
  | _ => .error .notBool

/-- The integer that a text writes. -/
def writtenInt (s : String) : Except FieldFault Int :=
  (WrittenInt.read s.toList).mapError fun
    | .malformed => .unclearInt
    | .tooLong => .longInt

def intValue : Json → Except FieldFault Int
  | .int n => .ok n
  | .bool b => .ok (if b then 1 else 0)
  | .float .nan | .float (.infinite _) => .error .notFinite
  | .float x =>
    match x.toInt? with
    | some n => if n.natAbs < Nat.pow 2 63 then .ok n else .error .longInt
    | none => .error .fractional
  | .str s => textValue s writtenInt
  | _ => .error .notInt

/-! ## All fields -/

/-- The value of a field that is read by `value`, or the given outcome if it is missing. -/
def fieldOr {α : Type} (fields : List (CodeString × Json)) (name : String)
    (value : Json → Except FieldFault α) (missing : Except FieldFault α) :
    Except FieldError α :=
  (((fields.lookup (name : CodeString)).map value).getD missing).mapError (⟨name, ·⟩)

/-- The error of an outcome, if it is one. -/
def faultOf {α : Type} : Except FieldError α → List FieldError
  | .ok _ => []
  | .error e => [e]

/-- The entry with the given fields, or all that is wrong with them. -/
def ofFields (fields : List (CodeString × Json)) : Except (List FieldError) Entry :=
  let rule := fieldOr fields "rule" stringValue (.error .missing)
  let gate := fieldOr fields "condition" gateValue (.ok .always)
  let group := fieldOr fields "group" stringValue (.ok "")
  let fired := fieldOr fields "fired" boolValue (.ok false)
  let matchCount := fieldOr fields "match_count" intValue (.ok 0)
  let skip := fieldOr fields "skip_reason" skipValue (.ok .none)
  let inserted := fieldOr fields "inserted" stringValue (.ok "")
  let description := fieldOr fields "description" stringValue (.ok "")
  match rule, gate, group, fired, matchCount, skip, inserted, description with
  | .ok rule, .ok gate, .ok group, .ok fired, .ok matchCount, .ok skip, .ok inserted,
      .ok description =>
    .ok { rule, gate, group, fired, matchCount, skip, inserted, description }
  | _, _, _, _, _, _, _, _ =>
    .error (faultOf rule ++ faultOf gate ++ faultOf group ++ faultOf fired ++
      faultOf matchCount ++ faultOf skip ++ faultOf inserted ++ faultOf description)

/-- An entry does not change: assigning to any field is a fault of that field. -/
def assign (_ : Entry) (field : String) : FieldError := ⟨field, .frozen⟩

/-- The fields of an object; nothing for other values. -/
def fieldsOf? : Json → Option (List (CodeString × Json))
  | .obj fields => some fields
  | _ => none

theorem mapError_ok {α β γ : Type} (f : α → β) (a : γ) :
    (Except.ok a : Except α γ).mapError f = .ok a := rfl

theorem ofFields_toJson (e : Entry) : (fieldsOf? e.toJson).map ofFields = some (.ok e) := by
  simp [toJson, fieldsOf?, ofFields, fieldOr, List.lookup_cons, stringValue, gateValue, boolValue,
    intValue, skipValue, textValue, mapError_ok, Gate.ofName?_name, Skip.ofName?_name]

theorem ofFields_toSortedJson (e : Entry) :
    (fieldsOf? e.toSortedJson).map ofFields = some (.ok e) := by
  simp [toSortedJson, fieldsOf?, ofFields, fieldOr, List.lookup_cons, stringValue, gateValue,
    boolValue, intValue, skipValue, textValue, mapError_ok, Gate.ofName?_name, Skip.ofName?_name]

end Entry

end ShaderDowngrade

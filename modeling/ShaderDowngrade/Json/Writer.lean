import ShaderDowngrade.Json.Basic
import ShaderDowngrade.Text.Basic

/-!
# Writing JSON

Values are written over several lines, two spaces deeper with each level; an empty list or object
stays on one line. The text is ASCII: in strings, the quote and the backslash get a backslash,
five control characters have letters of their own, and every other code point outside the visible
ASCII range is written by its UTF-16 units, `\u` and four hexadecimal digits each.

Main statement: `Json.isVisible_encodeString`, a written string is visible ASCII, whatever it holds.
-/

namespace ShaderDowngrade.Json

/-- A UTF-16 unit as an escape. -/
def escapeUnit (unit : Nat) : List Char := '\\' :: 'u' :: Quoted.hexDigits 4 unit

/-- A character as it stands in a written string. -/
def escapeChar (c : Char) : List Char :=
  match c with
  | '"' => ['\\', '"']
  | '\\' => ['\\', '\\']
  | '\n' => ['\\', 'n']
  | '\r' => ['\\', 'r']
  | '\t' => ['\\', 't']
  | '\x08' => ['\\', 'b']
  | '\x0c' => ['\\', 'f']
  | _ =>
    if 0x20 ≤ c.toNat ∧ c.toNat ≤ 0x7e then [c]
    else if c.toNat < 0x10000 then escapeUnit c.toNat
    else
      let n := c.toNat - 0x10000
      escapeUnit (0xd800 + n / 0x400) ++ escapeUnit (0xdc00 + n % 0x400)

/-- A code point as it stands in a written string. -/
def escapePoint : CodePoint → List Char
  | .char c => escapeChar c
  | .surrogate place => escapeUnit (CodePoint.unitOf place)

/-- A string between quotes. -/
def encodeString (s : CodeString) : List Char := '"' :: s.points.flatMap escapePoint ++ ['"']

/-- A line break and the indentation of a level. -/
def lineBreak (depth : Nat) : List Char := '\n' :: List.replicate (2 * depth) ' '

/-- A number that need not be an integer. -/
def encodeFloat : Binary64 → List Char
  | .nan => "NaN".toList
  | .infinite negative => if negative then "-Infinity".toList else "Infinity".toList
  | x => x.toText.toList

/-- The written items of a list or object at a level, between brackets. -/
def bracketed (left right : Char) (depth : Nat) (items : List (List Char)) : List Char :=
  if items.isEmpty then [left, right]
  else
    left :: lineBreak (depth + 1) ++ Text.joinWith (',' :: lineBreak (depth + 1)) items ++
      lineBreak depth ++ [right]

mutual

/-- The value, written at the given level. -/
def encodeAt (depth : Nat) : Json → List Char
  | .null => "null".toList
  | .bool b => if b then "true".toList else "false".toList
  | .int n => (toString n).toList
  | .float x => encodeFloat x
  | .str s => encodeString s
  | .arr items => bracketed '[' ']' depth (encodeItems (depth + 1) items)
  | .obj fields => bracketed '{' '}' depth (encodeFields (depth + 1) fields)

/-- The values of a list, each written at the given level. -/
def encodeItems (depth : Nat) : List Json → List (List Char)
  | [] => []
  | item :: items => encodeAt depth item :: encodeItems depth items

/-- The fields of an object, each written at the given level. -/
def encodeFields (depth : Nat) : List (CodeString × Json) → List (List Char)
  | [] => []
  | (name, value) :: fields =>
    (encodeString name ++ ':' :: ' ' :: encodeAt depth value) :: encodeFields depth fields

end

/-- The value as a text of several lines. -/
def encode (value : Json) : String := String.ofList (encodeAt 0 value)

/-! ## Written strings are visible ASCII -/

/-- A visible ASCII character, the space included. -/
def IsVisible (c : Char) : Prop := 0x20 ≤ c.toNat ∧ c.toNat ≤ 0x7e

theorem isVisible_hexDigits (width n : Nat) : ∀ c ∈ Quoted.hexDigits width n, IsVisible c := by
  induction width generalizing n with
  | zero => simp [Quoted.hexDigits]
  | succ width ih =>
    intro c hc
    simp only [Quoted.hexDigits, List.mem_append, List.mem_singleton] at hc
    rcases hc with hc | rfl
    · exact ih _ c hc
    · have table : ∀ d < 16, 0x20 ≤ (Nat.digitChar d).toNat ∧ (Nat.digitChar d).toNat ≤ 0x7e := by
        decide
      exact table _ (Nat.mod_lt _ (by decide))

theorem isVisible_escapeUnit (unit : Nat) : ∀ c ∈ escapeUnit unit, IsVisible c := by
  intro c hc
  simp only [escapeUnit, List.mem_cons] at hc
  rcases hc with rfl | rfl | hc
  · exact ⟨by decide, by decide⟩
  · exact ⟨by decide, by decide⟩
  · exact isVisible_hexDigits _ _ c hc

theorem isVisible_escapeChar (d : Char) : ∀ c ∈ escapeChar d, IsVisible c := by
  intro c hc
  unfold escapeChar at hc
  split at hc
  iterate 7
    · simp only [List.mem_cons, List.not_mem_nil, or_false] at hc
      rcases hc with rfl | rfl <;> exact ⟨by decide, by decide⟩
  split at hc
  · simp only [List.mem_singleton] at hc
    subst hc
    assumption
  · split at hc
    · exact isVisible_escapeUnit _ c hc
    · rcases List.mem_append.1 hc with hc | hc <;> exact isVisible_escapeUnit _ c hc

theorem isVisible_escapePoint (p : CodePoint) : ∀ c ∈ escapePoint p, IsVisible c := by
  cases p with
  | char d => exact isVisible_escapeChar d
  | surrogate place => exact isVisible_escapeUnit _

theorem isVisible_encodeString (s : CodeString) : ∀ c ∈ encodeString s, IsVisible c := by
  intro c hc
  simp only [encodeString, List.mem_cons, List.cons_append, List.mem_append, List.mem_flatMap,
    List.not_mem_nil, or_false] at hc
  rcases hc with rfl | ⟨p, -, hc⟩ | rfl
  · exact ⟨by decide, by decide⟩
  · exact isVisible_escapePoint p c hc
  · exact ⟨by decide, by decide⟩

end ShaderDowngrade.Json

import ShaderDowngrade.Text.Basic
import ShaderDowngrade.Text.Quoted

/-!
# Strings of code points

A JSON string may hold surrogates that are not halves of a pair. They are code points but no
characters, so such a string is no text. It can be kept, compared and written all the same.

Main statements: `CodeString.ofString_inj`, a text is determined by its code points, and
`CodeString.toString?_ofString`, they give the text back.
-/

namespace ShaderDowngrade

/-- A code point. -/
inductive CodePoint where
  | char (c : Char)
  /-- The surrogate that comes so many places after U+D800. -/
  | surrogate (place : Fin 0x800)
deriving DecidableEq, Repr

/-- A sequence of code points. -/
structure CodeString where
  points : List CodePoint := []
deriving DecidableEq, Repr

namespace CodePoint

/-- The character, if the code point is one. -/
def char? : CodePoint → Option Char
  | .char c => some c
  | .surrogate _ => none

/-- The UTF-16 unit of a surrogate. -/
def unitOf (place : Fin 0x800) : Nat := 0xd800 + place.val

/-- A code point as it stands between the given quotes. A surrogate is not printable. -/
def escaped (quote : Char) : CodePoint → List Char
  | .char c => Quoted.escaped quote c
  | .surrogate place => '\\' :: 'u' :: Quoted.hexDigits 4 (unitOf place)

end CodePoint

namespace CodeString

/-- The code points of a text. -/
def ofText (t : Text) : CodeString := ⟨t.map .char⟩

/-- The code points of a string. -/
def ofString (s : String) : CodeString := ofText s.toList

instance : Coe String CodeString := ⟨ofString⟩

/-- The characters, without the surrogates between them. -/
def chars (s : CodeString) : Text := s.points.filterMap CodePoint.char?

/-- The string with these code points, if there are no surrogates among them. -/
def toString? (s : CodeString) : Option String :=
  if s.points.length = s.chars.length then some (String.ofList s.chars) else none

/-- The text with U+FFFD for each surrogate. -/
def toText (s : CodeString) : Text := s.points.map fun p ↦ p.char?.getD '\ufffd'

/-- The string as messages quote it. -/
def quoted (s : CodeString) : String :=
  let quote := Quoted.quoteFor s.chars
  String.ofList (quote :: s.points.flatMap (·.escaped quote) ++ [quote])

@[simp]
theorem chars_ofText (t : Text) : (ofText t).chars = t := by
  induction t with
  | nil => rfl
  | cons c cs ih => simpa [ofText, chars, CodePoint.char?] using ih

@[simp]
theorem chars_ofString (s : String) : (ofString s).chars = s.toList := chars_ofText _

@[simp]
theorem points_ofString (s : String) : (ofString s).points = s.toList.map .char := rfl

@[simp]
theorem toText_ofString (s : String) : (ofString s).toText = s.toList := by
  have h : (fun p : CodePoint ↦ p.char?.getD '\ufffd') ∘ CodePoint.char = id := rfl
  rw [toText, points_ofString, List.map_map, h, List.map_id]

@[simp]
theorem toString?_ofString (s : String) : (ofString s).toString? = some s := by
  simp [toString?]

theorem ofString_inj {s t : String} : ofString s = ofString t ↔ s = t :=
  ⟨fun h ↦ by simpa using congrArg toString? h, fun h ↦ h ▸ rfl⟩

@[simp]
theorem beq_ofString (s t : String) : (ofString s == ofString t) = (s == t) := by
  rw [Bool.eq_iff_iff, beq_iff_eq, beq_iff_eq, ofString_inj]

end CodeString

end ShaderDowngrade

/-!
# Texts

A text is the list of its characters. Rules read a text from left to right and never look back, so
the list is the natural carrier: a position is a suffix, and consuming a character is taking a
tail.

Main statements: `Text.includes_iff` reads the substring test as the infix relation on lists, and
`Text.indexOf?_isSome` says that a word has a first position exactly if it occurs.
-/

namespace ShaderDowngrade

/-- A piece of shader source, character by character. -/
abbrev Text := List Char

namespace Text

/-- Whether `word` occurs somewhere in the text. The empty word occurs in every text. -/
def includes : Text → Text → Bool
  | [], word => word.isEmpty
  | c :: cs, word => word.isPrefixOf (c :: cs) || includes cs word

/-- The number of characters before the first occurrence of `word`. -/
def indexOf? : Text → Text → Option Nat
  | [], word => if word.isEmpty then some 0 else none
  | c :: cs, word =>
    if word.isPrefixOf (c :: cs) then some 0 else (indexOf? cs word).map (· + 1)

theorem includes_iff {text word : Text} : includes text word = true ↔ word <:+: text := by
  induction text with
  | nil => simp [includes]
  | cons c cs ih => simp [includes, ih, List.infix_cons_iff]

theorem indexOf?_isSome (text word : Text) : (indexOf? text word).isSome = includes text word := by
  induction text with
  | nil => cases word <;> rfl
  | cons c cs ih => by_cases h : word.isPrefixOf (c :: cs) <;> simp [indexOf?, includes, h, ih]

/-- The texts joined into one, with `separator` between neighbours. -/
def joinWith (separator : Text) : List Text → Text
  | [] => []
  | [t] => t
  | t :: ts => t ++ separator ++ joinWith separator ts

end Text

end ShaderDowngrade

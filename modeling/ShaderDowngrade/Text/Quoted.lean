import ShaderDowngrade.Text.Printable

/-!
# Quoted texts

Messages show a text between quotes. The quotes are single, or double if the text holds a single
one and no double one. The quote and the backslash get a backslash, newline, carriage return and
tab are written `\n`, `\r` and `\t`, and every other character that is not printable is written by
its code point in hexadecimal: `\x` and two digits, `\u` and four, or `\U` and eight.
-/

namespace ShaderDowngrade.Quoted

/-- The last `width` hexadecimal digits of a number, in lower case. -/
def hexDigits : (width : Nat) → Nat → List Char
  | 0, _ => []
  | width + 1, n => hexDigits width (n / 16) ++ [Nat.digitChar (n % 16)]

/-- The quote that is put around the text. -/
def quoteFor (text : List Char) : Char :=
  if '\'' ∈ text ∧ '"' ∉ text then '"' else '\''

/-- A character as it stands between the given quotes. -/
def escaped (quote c : Char) : List Char :=
  if c = quote ∨ c = '\\' then ['\\', c]
  else if c = '\n' then ['\\', 'n']
  else if c = '\r' then ['\\', 'r']
  else if c = '\t' then ['\\', 't']
  else if ' ' ≤ c ∧ c ≤ '~' then [c]
  else if Printable.isPrintable c then [c]
  else if c.toNat < 0x100 then '\\' :: 'x' :: hexDigits 2 c.toNat
  else if c.toNat < 0x10000 then '\\' :: 'u' :: hexDigits 4 c.toNat
  else '\\' :: 'U' :: hexDigits 8 c.toNat

/-- The text between quotes. -/
def encode (text : List Char) : List Char :=
  let quote := quoteFor text
  quote :: text.flatMap (escaped quote) ++ [quote]

end ShaderDowngrade.Quoted

namespace ShaderDowngrade

/-- A string as messages quote it. -/
def quoted (s : String) : String := String.ofList (Quoted.encode s.toList)

/-- A list of strings as messages show it: quoted, between square brackets. -/
def quotedList (items : List String) : String :=
  "[" ++ ", ".intercalate (items.map quoted) ++ "]"

end ShaderDowngrade

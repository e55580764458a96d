/-!
# White space

Two sets of characters count as space. `Blank.isWhiteSpace` is the Unicode property White_Space;
`Blank.isBlank` adds the four information separators U+001C to U+001F, and is what `\s` stands for
in a pattern.
-/

namespace ShaderDowngrade.Blank

/-- The property White_Space of the Unicode standard. -/
def isWhiteSpace (c : Char) : Bool :=
  let n := c.toNat
  (0x09 ≤ n && n ≤ 0x0d) || n == 0x20 || n == 0x85 || n == 0xa0 || n == 0x1680 ||
  (0x2000 ≤ n && n ≤ 0x200a) || n == 0x2028 || n == 0x2029 || n == 0x202f || n == 0x205f ||
  n == 0x3000

/-- White space or an information separator: what `\s` matches. -/
def isBlank (c : Char) : Bool :=
  isWhiteSpace c || (0x1c ≤ c.toNat && c.toNat ≤ 0x1f)

/-- The list without white space at either end. -/
def trim (cs : List Char) : List Char :=
  ((cs.dropWhile isWhiteSpace).reverse.dropWhile isWhiteSpace).reverse

/-- The list without blank characters at either end. -/
def stripped (cs : List Char) : List Char :=
  ((cs.dropWhile isBlank).reverse.dropWhile isBlank).reverse

end ShaderDowngrade.Blank

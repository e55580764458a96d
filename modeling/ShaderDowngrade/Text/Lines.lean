import ShaderDowngrade.Text.Blank
import ShaderDowngrade.Text.Cells

/-!
# Laying texts out in lines

A text is laid out in lines of limited width. Newlines always end a line, tabs become spaces up to
the next tab stop, and a line that is too wide is broken before the first word that does not fit.
Space behind a word stays with the word, so it hangs over the end of the line; what hangs over is
taken away.
-/

namespace ShaderDowngrade

/-- What becomes of a word that is wider than a line. -/
inductive Overlong where
  /-- It goes on in the next line. -/
  | folded
  /-- It is cut off, and an ellipsis stands in the last cell. -/
  | cut
deriving DecidableEq, Repr

namespace Lines

/-! ## Tabs -/

/-- The distance of tab stops. -/
def tabStop : Nat := 8

/-- The parts of a line between its tabs, which become spaces: at least one, and more up to the
next tab stop. `column` is where the first part begins. -/
def joinParts (column : Nat) : List Text → Text
  | [] => []
  | [part] => part
  | part :: parts =>
    let reached := column + Width.ofText (part ++ [' '])
    let stop := (reached + tabStop - 1) / tabStop * tabStop
    part ++ ' ' :: List.replicate (stop - reached) ' ' ++ joinParts stop parts

/-- The line with spaces for tabs. -/
def expandTabs (line : Text) : Text := joinParts 0 (line.splitOn '\t')

/-! ## Words -/

/-- The line without blank characters at its end. -/
def trimEnd (line : Text) : Text := (line.reverse.dropWhile Blank.isBlank).reverse

/-- The words of a line, each with the space behind it, and the first one with the space before it
too. -/
def words (line : Text) : List Text :=
  match line.splitBy (fun a b ↦ !Blank.isBlank a || Blank.isBlank b) with
  | first :: second :: rest =>
    if first.all Blank.isBlank then (first ++ second) :: rest else first :: second :: rest
  | groups => groups

/-- Words in lines of at most `width` cells, behind a line that has been begun and takes `used`
cells. Only space and what is to be cut off may stand beyond. -/
def breakWords (overlong : Overlong) (width : Nat) (line : Text) (used : Nat) :
    List Text → List Text
  | [] => [line]
  | word :: words =>
    let size := Width.ofText (trimEnd word)
    let before := if line.isEmpty then [] else [line]
    if used + size ≤ width then
      breakWords overlong width (line ++ word) (used + Width.ofText word) words
    else if size ≤ width ∨ overlong = .cut then
      before ++ breakWords overlong width word (Width.ofText word) words
    else
      let pieces := Cells.fold width word
      let latest := pieces.getLast?.getD []
      before ++ pieces.dropLast ++
        breakWords overlong width latest (Width.ofText latest) words

/-! ## Lines -/

/-- The line without space at its end that would stand beyond the width. -/
def trimOverhang (width : Nat) (line : Text) : Text :=
  line.take (max (trimEnd line).length (min width line.length))

/-- The line, cut off if it is wider than `width` cells. -/
def fit (overlong : Overlong) (width : Nat) (line : Text) : Text :=
  match overlong with
  | .folded => Cells.crop width line
  | .cut => if Width.ofText line ≤ width then line else Cells.crop (width - 1) line ++ ['…']

/-- The text in lines of at most `width` cells. -/
def layOut (overlong : Overlong) (width : Nat) (text : Text) : List Text :=
  (text.splitOn '\n').flatMap fun line ↦
    (breakWords overlong width [] 0 (words (expandTabs line))).map fun line ↦
      fit overlong width (trimOverhang width line)

/-- The text as it is printed, every line with its newline. -/
def printed (width : Nat) (text : Text) : Text :=
  (layOut .folded width text).flatMap (· ++ ['\n'])

/-- Whether the character ends a line where lines are only measured. -/
def isLineEnd (c : Char) : Bool :=
  let n := c.toNat
  (0x0a ≤ n && n ≤ 0x0d) || (0x1c ≤ n && n ≤ 0x1e) || n == 0x85 || n == 0x2028 || n == 0x2029

/-- The width of the widest line, tabs not counted. -/
def widest (text : Text) : Nat :=
  ((text.splitOnP isLineEnd).map Width.ofText).foldl max 0

end Lines

end ShaderDowngrade

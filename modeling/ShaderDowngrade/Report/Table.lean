import ShaderDowngrade.Markup.Reader
import ShaderDowngrade.Number.Binary64
import ShaderDowngrade.Text.Lines

/-!
# Tables

A table is drawn with box characters: a heavy frame around its header, a light one around its
rows. Every column is as wide as its widest cell, with a space on either side, and the title is
centred over the whole width. A cell may have several lines. Width is counted in the cells of a
terminal's grid, so a wide character counts twice.

A table that would be wider than the terminal is narrowed: the widest columns give up width until
they are as narrow as the next widest ones, then all of these together, and so on.
-/

namespace ShaderDowngrade

/-- A column of a table. -/
structure Column where
  /-- The heading. -/
  heading : String
  /-- Whether cells stand at the right edge. -/
  atRight : Bool
  /-- The cells below the heading. -/
  cells : List Text
deriving DecidableEq, Repr

/-- A table. -/
structure Table where
  /-- The line above the table. -/
  title : String
  columns : List Column
deriving DecidableEq, Repr

/-- The characters of a horizontal line: its left end, its run, its crossings and its right end. -/
structure Edge where
  left : Char
  run : Char
  cross : Char
  right : Char

namespace Column

/-- The column whose cells show what marked up texts show. -/
def ofMarkup (heading : String) (atRight : Bool) (cells : List Text) :
    Except Markup.Fault Column := do
  return { heading, atRight, cells := ← cells.mapM Markup.read }

/-- The width of the widest cell. -/
def widest (c : Column) : Nat :=
  (c.cells.map Lines.widest).foldl max (Lines.widest c.heading.toList)

end Column

namespace Table

/-- Above the header. -/
def topEdge : Edge := ⟨'┏', '━', '┳', '┓'⟩

/-- Below the header. -/
def headEdge : Edge := ⟨'┡', '━', '╇', '┩'⟩

/-- Below the rows. -/
def bottomEdge : Edge := ⟨'└', '─', '┴', '┘'⟩

/-! ## Widths -/

/-- Widths of which those that equal `top` give up an amount together, as evenly as they can, but
none of them more than `most`. `sharers` is how many of them there are. -/
def giveUp (top most : Nat) (sharers amount : Nat) : List Nat → List Nat
  | [] => []
  | w :: ws =>
    if w = top then
      let share := min most (Binary64.roundDiv amount sharers)
      (w - share) :: giveUp top most (sharers - 1) (amount - share) ws
    else w :: giveUp top most sharers amount ws

/-- Widths that take `room` together, if they can, from wider ones. The number bounds how often the
widest of them give something up. -/
def narrow (room : Nat) : Nat → List Nat → List Nat
  | 0, ws => ws
  | steps + 1, ws =>
    if ws.foldr (· + ·) 0 ≤ room then ws
    else
      let excess := ws.foldr (· + ·) 0 - room
      let top := ws.foldl max 0
      let next := (ws.filter (· ≠ top)).foldl max 0
      narrow room steps (giveUp top (min excess (top - next)) (ws.count top) excess ws)

/-- Widths that take `room` together, if they can, from wider ones. -/
def narrowed (room : Nat) (ws : List Nat) : List Nat := narrow room (ws.foldr (· + ·) 0) ws

/-- The width of each column on a terminal of the given width, without the space on either side. -/
def widths (width : Nat) (t : Table) : List Nat :=
  let room := width - (t.columns.length + 1)
  (narrowed room (t.columns.map fun c ↦ min room (c.widest + 2))).map (· - 2)

/-! ## Drawing -/

/-- Spaces that fill a line up to a width. -/
def blanks (n : Nat) : Text := List.replicate n ' '

/-- A line of a cell, filled up to the width of its column. -/
def fill (atRight : Bool) (width : Nat) (line : Text) : Text :=
  let space := blanks (width - Width.ofText line)
  if atRight then space ++ line else line ++ space

/-- A cell of a drawn table: its width, and its lines, all of that width. -/
structure Cell where
  width : Nat
  lines : List Text

/-- A text in a cell. -/
def Cell.ofText (atRight : Bool) (width : Nat) (text : Text) : Cell :=
  ⟨width, (Lines.layOut .cut width text).map (fill atRight width)⟩

/-- A horizontal line. -/
def drawEdge (e : Edge) (ws : List Nat) : Text :=
  e.left :: Text.joinWith [e.cross] (ws.map fun w ↦ List.replicate (w + 2) e.run) ++ [e.right]

/-- The lines of a row between vertical bars. -/
def drawRow (bar : Char) (row : List Cell) : List Text :=
  let height := (row.map (·.lines.length)).foldl max 1
  (List.range height).map fun i ↦
    let line (c : Cell) : Text := ' ' :: (c.lines[i]?).getD (blanks c.width) ++ [' ']
    bar :: Text.joinWith [bar] (row.map line) ++ [bar]

/-- The title, centred; an odd space goes to the right. -/
def drawTitle (title : String) (width : Nat) : Text :=
  let line := title.toList
  let space := width - Width.ofText line
  blanks (space / 2) ++ line ++ blanks (space - space / 2)

/-- The lines of the table on a terminal of the given width. -/
def draw (width : Nat) (t : Table) : List Text :=
  let ws := t.widths width
  let top := drawEdge topEdge ws
  let height := (t.columns.map (·.cells.length)).foldl max 0
  let row (text : Column → Text) : List Cell :=
    List.zipWith (fun c w ↦ Cell.ofText c.atRight w (text c)) t.columns ws
  drawTitle t.title top.length :: top :: drawRow '┃' (row (·.heading.toList)) ++
    drawEdge headEdge ws ::
    ((List.range height).flatMap fun i ↦ drawRow '│' (row fun c ↦ (c.cells[i]?).getD [])) ++
    [drawEdge bottomEdge ws]

/-- The table as a text, each line with its newline. -/
def render (width : Nat) (t : Table) : Text := (t.draw width).flatMap (· ++ ['\n'])

end Table

end ShaderDowngrade

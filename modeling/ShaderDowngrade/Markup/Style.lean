import ShaderDowngrade.Text.Basic
import ShaderDowngrade.Text.Blank

/-!
# Styles

A style is defined by words: attributes, which may be negated, a colour, a background behind the
word `on`, and a link. Definitions that say the same in other words have one normal form, so that a
closing tag need not repeat the opening one to the letter.
-/

namespace ShaderDowngrade.Markup

/-! ## Words -/

def lower (s : String) : String := s.map Char.toLower

/-- The attributes in the order of the normal form, each with its short name if it has one. -/
def attributes : List (String × Option String) :=
  [("bold", some "b"), ("dim", some "d"), ("italic", some "i"), ("underline", some "u"),
    ("blink", none), ("blink2", none), ("reverse", some "r"), ("conceal", some "c"),
    ("strike", some "s"), ("underline2", some "uu"), ("frame", none), ("encircle", none),
    ("overline", some "o")]

/-- The attribute of a name. -/
def attribute? (name : String) : Option String :=
  (attributes.find? fun (full, short) ↦ full = name ∨ short = some name).map (·.1)

/-- The colours that have names, without the shades of grey. -/
def colorNames : List String :=
  ["default", "black", "red", "green", "yellow", "blue", "magenta", "cyan", "white", "bright_black",
    "bright_red", "bright_green", "bright_yellow", "bright_blue", "bright_magenta", "bright_cyan",
    "bright_white", "navy_blue", "dark_blue", "blue3", "blue1", "dark_green", "deep_sky_blue4",
    "dodger_blue3", "dodger_blue2", "green4", "spring_green4", "turquoise4", "deep_sky_blue3",
    "dodger_blue1", "green3", "spring_green3", "dark_cyan", "light_sea_green", "deep_sky_blue2",
    "deep_sky_blue1", "spring_green2", "cyan3", "dark_turquoise", "turquoise2", "green1",
    "spring_green1", "medium_spring_green", "cyan2", "cyan1", "dark_red", "deep_pink4", "purple4",
    "purple3", "blue_violet", "orange4", "medium_purple4", "slate_blue3", "royal_blue1",
    "chartreuse4", "dark_sea_green4", "pale_turquoise4", "steel_blue", "steel_blue3",
    "cornflower_blue", "chartreuse3", "cadet_blue", "sky_blue3", "steel_blue1", "pale_green3",
    "sea_green3", "aquamarine3", "medium_turquoise", "chartreuse2", "sea_green2", "sea_green1",
    "aquamarine1", "dark_slate_gray2", "dark_magenta", "dark_violet", "purple", "light_pink4",
    "plum4", "medium_purple3", "slate_blue1", "yellow4", "wheat4", "light_slate_grey",
    "light_slate_gray", "medium_purple", "light_slate_blue", "dark_olive_green3", "dark_sea_green",
    "light_sky_blue3", "sky_blue2", "dark_sea_green3", "dark_slate_gray3", "sky_blue1",
    "chartreuse1", "light_green", "pale_green1", "dark_slate_gray1", "red3", "medium_violet_red",
    "magenta3", "dark_orange3", "indian_red", "hot_pink3", "medium_orchid3", "medium_orchid",
    "medium_purple2", "dark_goldenrod", "light_salmon3", "rosy_brown", "medium_purple1", "gold3",
    "dark_khaki", "navajo_white3", "light_steel_blue3", "light_steel_blue", "yellow3",
    "dark_sea_green2", "light_cyan3", "light_sky_blue1", "green_yellow", "dark_olive_green2",
    "dark_sea_green1", "pale_turquoise1", "deep_pink3", "magenta2", "hot_pink2", "orchid",
    "medium_orchid1", "orange3", "light_pink3", "pink3", "plum3", "violet", "light_goldenrod3",
    "tan", "misty_rose3", "thistle3", "plum2", "khaki3", "light_goldenrod2", "light_yellow3",
    "light_steel_blue1", "yellow2", "dark_olive_green1", "honeydew2", "light_cyan1", "red1",
    "deep_pink2", "deep_pink1", "magenta1", "orange_red1", "indian_red1", "hot_pink", "dark_orange",
    "salmon1", "light_coral", "pale_violet_red1", "orchid2", "orchid1", "orange1", "sandy_brown",
    "light_salmon1", "light_pink1", "pink1", "plum1", "gold1", "navajo_white1", "misty_rose1",
    "thistle1", "yellow1", "light_goldenrod1", "khaki1", "wheat1", "cornsilk1"]

/-- The shades of grey by their percentages. -/
def greys : List Nat :=
  [0, 3, 7, 11, 15, 19, 23, 27, 30, 35, 37, 39, 42, 46, 50, 53, 54, 58, 62, 63, 66, 69, 70, 74, 78,
    82, 84, 85, 89, 93, 100]

def isHexDigit (c : Char) : Bool := c.isDigit || ('a' ≤ c && c ≤ 'f')

/-- The number of up to three digits, if it is at most 255. -/
def isByte (cs : Text) : Bool :=
  !cs.isEmpty && cs.all Char.isDigit && decide ((String.ofList cs).toNat?.getD 256 ≤ 255)

/-- What stands in brackets behind a word. -/
def argument? (word : String) (s : String) : Option Text :=
  let start := word.toList ++ ['(']
  let cs := s.toList
  if start.isPrefixOf cs && cs.getLast? = some ')' then some (cs.drop start.length).dropLast
  else none

/-- Whether a word in lower case is a colour: a name, six hexadecimal digits behind a number sign, a
number, or three components. -/
def isColor (s : String) : Bool :=
  colorNames.contains s ||
    greys.any (fun n ↦ s = "grey" ++ toString n || s = "gray" ++ toString n) ||
    (s.startsWith "#" && s.length = 7 && (s.toList.drop 1).all isHexDigit) ||
    (argument? "color" s).any (fun n ↦ n.length ≤ 3 && isByte n) ||
    (argument? "rgb" s).any fun components ↦
      let parts := components.splitOn ','
      parts.length = 3 && parts.all isByte

/-! ## Styles -/

/-- A style. -/
structure Style where
  /-- The attributes that are set or negated, the latest first. -/
  settings : List (String × Bool) := []
  color : Option String := none
  background : Option String := none
  link : Option String := none
deriving DecidableEq, Repr

namespace Style

/-- The style with what words add to it; nothing if they are not understood. -/
def addWords? (s : Style) : List String → Option Style
  | [] => some s
  | word :: rest =>
    match lower word, rest with
    | "on", color :: rest =>
      if isColor (lower color) then addWords? { s with background := some (lower color) } rest
      else none
    | "on", [] => none
    | "not", name :: rest =>
      match attribute? name with
      | some a => addWords? { s with settings := (a, false) :: s.settings } rest
      | none => none
    | "not", [] => none
    | "link", target :: rest => addWords? { s with link := some target } rest
    | "link", [] => none
    | word, rest =>
      match attribute? word with
      | some a => addWords? { s with settings := (a, true) :: s.settings } rest
      | none => if isColor word then addWords? { s with color := some word } rest else none

/-- The definition of a style, in normal form. -/
def definition (s : Style) : String :=
  let set := attributes.filterMap fun (a, _) ↦
    (s.settings.lookup a).map fun on ↦ if on then a else "not " ++ a
  let words := set ++ s.color.toList ++ s.background.elim [] (["on", ·]) ++
    s.link.elim [] (["link", ·])
  if words.isEmpty then "none" else " ".intercalate words

/-- The normal form of a definition. One that is not understood is put into lower case. -/
def normalForm (definition : String) : String :=
  let words := (definition.toList.splitOnP Blank.isBlank).filterMap fun w ↦
    if w.isEmpty then none else some (String.ofList w)
  if words = ["none"] then "none"
  else
    match addWords? {} words with
    | some s => s.definition
    | none => lower (String.ofList (Blank.stripped definition.toList))

example : normalForm "on  RED b" = "bold on red" := by decide +kernel

example : normalForm "Foo b" = "foo b" := by decide +kernel

end Style

end ShaderDowngrade.Markup

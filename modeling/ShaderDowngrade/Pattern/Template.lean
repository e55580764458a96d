import ShaderDowngrade.Pattern.Scan
import ShaderDowngrade.Pattern.Reader

/-!
# Replacement templates

A template says what stands in the place of a match: literal characters, and references to the
groups of the match. `\1` to `\99` and `\g<n>` refer to groups, group 0 being the whole match;
`\n`, `\t` and their like stand for control characters, and `\\` for a backslash. A backslash
before a character that is neither a letter nor a digit stands, like that character, for itself.

A template is read against the number of groups of its pattern, and one that refers to a group
beyond them is refused whether or not anything matches.
-/

namespace ShaderDowngrade

/-- Why a text is not a template for a pattern. -/
inductive TemplateError where
  /-- The text ends in a backslash. -/
  | trailingBackslash
  /-- A backslash stands before a letter that has no meaning there. -/
  | unknownEscape (c : Char)
  /-- `\g` is not followed by a group number in angle brackets. -/
  | badReference
  /-- The pattern has no group of this number. -/
  | noSuchGroup (index : Nat)
  /-- Three octal digits stand for a number above 255. -/
  | octalTooLarge
deriving DecidableEq, Repr

/-- A part of a template. -/
inductive TemplatePart where
  /-- This character. -/
  | char (c : Char)
  /-- What the group has matched. -/
  | group (index : Nat)
deriving DecidableEq, Repr

/-- A replacement template. -/
abbrev Template := List TemplatePart

namespace Template

/-- The text that the template gives for a match. -/
def expand (t : Template) (m : Match) : Text :=
  t.flatMap fun
    | .char c => [c]
    | .group index => m.group index

/-- Whether the character is an octal digit. -/
def isOctal (c : Char) : Bool := '0' ≤ c && c ≤ '7'

/-- The number that the octal digits write. -/
def octalValue (digits : Text) : Nat :=
  digits.foldl (fun n c ↦ 8 * n + (c.toNat - '0'.toNat)) 0

/-- A reference to a group that must exist. -/
def groupPart (groups index : Nat) : Except TemplateError TemplatePart :=
  if index ≤ groups then .ok (.group index) else .error (.noSuchGroup index)

/-- A backslash and a digit: up to three octal digits after a zero or making up a number of three
digits stand for a character, otherwise one or two digits name a group. -/
def readDigits (groups : Nat) (d : Char) (cs : Text) : Except TemplateError (TemplatePart × Text) :=
  if d = '0' then
    let octal := (cs.take 2).takeWhile isOctal
    .ok (.char (Char.ofNat (octalValue octal)), cs.drop octal.length)
  else
    match cs with
    | e :: f :: rest =>
      if e.isDigit then
        if isOctal d && isOctal e && isOctal f then
          let n := octalValue [d, e, f]
          if n ≤ 255 then .ok (.char (Char.ofNat n), rest) else .error .octalTooLarge
        else (groupPart groups (Pattern.digitsValue [d, e])).map (·, f :: rest)
      else (groupPart groups (Pattern.digitsValue [d])).map (·, cs)
    | [e] =>
      if e.isDigit then (groupPart groups (Pattern.digitsValue [d, e])).map (·, [])
      else (groupPart groups (Pattern.digitsValue [d])).map (·, cs)
    | [] => (groupPart groups (Pattern.digitsValue [d])).map (·, [])

/-- The reference behind `\g`. -/
def readReference (groups : Nat) : Text → Except TemplateError (TemplatePart × Text)
  | '<' :: cs =>
    let digits := cs.takeWhile Char.isDigit
    match cs.dropWhile Char.isDigit with
    | '>' :: rest =>
      if digits.isEmpty then .error .badReference
      else (groupPart groups (Pattern.digitsValue digits)).map (·, rest)
    | _ => .error .badReference
  | _ => .error .badReference

/-- The parts behind a backslash and `c`, and the text behind them. -/
def readEscape (groups : Nat) (c : Char) (cs : Text) :
    Except TemplateError (Template × Text) :=
  if c = 'g' then (readReference groups cs).map fun (part, rest) ↦ ([part], rest)
  else if c.isDigit then (readDigits groups c cs).map fun (part, rest) ↦ ([part], rest)
  else if c = 'b' then .ok ([.char '\x08'], cs)
  else if c = '\\' then .ok ([.char '\\'], cs)
  else
    match Pattern.controlEscape? c with
    | some d => .ok ([.char d], cs)
    | none =>
      if c.isAlpha then .error (.unknownEscape c) else .ok ([.char '\\', .char c], cs)

/-- The parts of a text that is no longer than the fuel. -/
def readParts (groups : Nat) : Nat → Text → Except TemplateError Template
  | 0, _ => .ok []
  | _ + 1, [] => .ok []
  | _ + 1, ['\\'] => .error .trailingBackslash
  | fuel + 1, '\\' :: c :: cs => do
    let (parts, rest) ← readEscape groups c cs
    return parts ++ (← readParts groups fuel rest)
  | fuel + 1, c :: cs => do return .char c :: (← readParts groups fuel cs)

/-- Reads a written template for a pattern with the given number of groups. -/
def read (groups : Nat) (written : Text) : Except TemplateError Template :=
  readParts groups written.length written

end Template

/-- The text with the template in the place of every match, and the number of matches. -/
def Pattern.substitute (p : Pattern) (template : Template) (text : Text) : Text × Nat :=
  (p.replaceWith template.expand text, p.count text)

end ShaderDowngrade

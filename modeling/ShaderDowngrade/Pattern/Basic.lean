import ShaderDowngrade.Text.Alphanumeric
import ShaderDowngrade.Text.Blank
import ShaderDowngrade.Text.Basic

/-!
# Patterns

A pattern is an expression over characters together with the spelling that it was read from. The
spelling is kept because messages show it; the expression is what matching follows.

The expressions are the usual regular ones with anchors, lookahead and numbered groups. Sequences
are right-nested and end in `empty`, so that a literal word is `Expr.word`, one `seq` per
character, and a proof about a word is an induction on its characters.
-/

namespace ShaderDowngrade

/-- A member of a bracketed class. -/
inductive ClassItem where
  /-- The characters from `first` to `last` in code point order. -/
  | range (first last : Char)
  /-- The decimal digits of all scripts. -/
  | digit
  /-- The letters and numbers of all scripts, and the underscore. -/
  | word
  /-- The blank characters. -/
  | blank
deriving DecidableEq, Repr

namespace ClassItem

/-- A single character as a class member. -/
abbrev single (c : Char) : ClassItem := .range c c

def admits : ClassItem → Char → Bool
  | .range first last, c => first.toNat ≤ c.toNat && c.toNat ≤ last.toNat
  | .digit, c => Alphanumeric.isDecimal c
  | .word, c => Alphanumeric.isAlphanumeric c || c == '_'
  | .blank, c => Blank.isBlank c

end ClassItem

/-- A test on one character. -/
inductive CharTest where
  /-- This character only. -/
  | exactly (c : Char)
  /-- Any character but a newline. -/
  | notNewline
  /-- A character that some item admits. -/
  | oneOf (items : List ClassItem)
  /-- A character that no item admits. -/
  | noneOf (items : List ClassItem)
deriving DecidableEq, Repr

def CharTest.admits : CharTest → Char → Bool
  | .exactly d, c => c == d
  | .notNewline, c => c != '\n'
  | .oneOf items, c => items.any (·.admits c)
  | .noneOf items, c => !items.any (·.admits c)

/-- Regular expressions with anchors, lookahead and groups. -/
inductive Expr where
  /-- Matches the empty text. -/
  | empty
  /-- One character that passes the test. -/
  | one (test : CharTest)
  /-- The start of the whole text. -/
  | start
  /-- The end of the whole text, or the place before a newline that ends it. -/
  | finish
  /-- Holds where `body` matches (or, if not `wanted`, where it does not), and consumes nothing. -/
  | ahead (wanted : Bool) (body : Expr)
  /-- `body`, remembering what it matched under `index`. -/
  | group (index : Nat) (body : Expr)
  /-- `first` and then `second`. -/
  | seq (first second : Expr)
  /-- `first` or, failing that, `second`. -/
  | alt (first second : Expr)
  /-- `body` at least `least` and at most `most` times, more first if `greedy`, fewer first if
  not. -/
  | rep (least : Nat) (most : Option Nat) (greedy : Bool) (body : Expr)
deriving DecidableEq, Repr

namespace Expr

/-- The expressions one after the other. -/
def seqAll : List Expr → Expr
  | [] => .empty
  | e :: es => .seq e (seqAll es)

/-- A single literal character. -/
abbrev char (c : Char) : Expr := .one (.exactly c)

/-- A literal word. -/
def word (w : Text) : Expr := seqAll (w.map char)

/-- One or more of a character test, as many as possible. -/
abbrev some1 (items : List ClassItem) : Expr := .rep 1 none true (.one (.oneOf items))

/-- The number of groups, which are numbered from 1. -/
def groupCount : Expr → Nat
  | .empty | .one _ | .start | .finish => 0
  | .ahead _ body | .rep _ _ _ body => body.groupCount
  | .group _ body => body.groupCount + 1
  | .seq first second | .alt first second => first.groupCount + second.groupCount

end Expr

/-- An expression with the spelling that messages show for it. -/
structure Pattern where
  /-- How the pattern is written. -/
  spelling : String
  /-- What the pattern matches. -/
  expr : Expr
deriving DecidableEq, Repr

end ShaderDowngrade

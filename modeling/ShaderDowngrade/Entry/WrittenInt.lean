import ShaderDowngrade.Pattern.Reader
import ShaderDowngrade.Text.Blank

/-!
# Written integers

A text writes an integer with digits, and more leniently than a numeral: there may be space around
it, a sign before it, zeros in front of it, a point and zeros behind it, and single underscores in
it. Zeros in front are dropped with all underscores among them, and a minus sign may stand behind
them. What is left when all this is taken away has to be a numeral with no superfluous zero.
-/

namespace ShaderDowngrade.WrittenInt

/-- Why a text writes no integer. -/
inductive Fault where
  /-- It is none. -/
  | malformed
  /-- It is too long. -/
  | tooLong
deriving DecidableEq, Repr

/-- The most characters that a numeral may have, its sign included. -/
def maxLength : Nat := 4300

def isNonzeroDigit (c : Char) : Bool := '1' ≤ c && c ≤ '9'

/-- The text behind zeros and underscores, of which `last` is the latest. If nothing but a fraction
follows, `last` stays. -/
def behindZeros? (last : Char) : Text → Option Text
  | [] => some [last]
  | c :: cs =>
    if c = '0' ∨ c = '_' then behindZeros? c cs
    else if c = '-' ∨ isNonzeroDigit c then some (c :: cs)
    else if c = '.' then some (last :: c :: cs)
    else none

/-- The text without zeros in front. It has to begin with a digit. -/
def withoutZeros? : Text → Option Text
  | [] => none
  | c :: cs =>
    if c = '0' then behindZeros? c cs else if isNonzeroDigit c then some (c :: cs) else none

/-- The text without a point and zeros at its end. -/
def withoutFraction (cs : Text) : Text :=
  let zeros := (cs.dropWhile (· != '.')).drop 1
  if !zeros.isEmpty && zeros.all (· == '0') then cs.takeWhile (· != '.') else cs

/-- The text without underscores, if each of them has a neighbour other than an underscore on
either side; else the text as it is. -/
def withoutUnderscores (cs : Text) : Text :=
  if cs.head? = some '_' ∨ cs.getLast? = some '_' ∨ Text.includes cs ['_', '_'] then cs
  else cs.filter (· != '_')

/-- The integer of a numeral: digits without a superfluous zero, with or without a minus sign. -/
def ofNumeral (cs : Text) : Except Fault Int :=
  let (negative, body) : Bool × Text :=
    match cs with
    | '-' :: body => (true, body)
    | body => (false, body)
  let digits := body.takeWhile Char.isDigit
  if digits.head? = some '0' then if body = ['0'] then .ok 0 else .error .malformed
  else if maxLength < digits.length + negative.toNat then .error .tooLong
  else if digits.isEmpty ∨ digits ≠ body then .error .malformed
  else
    let n : Int := Pattern.digitsValue digits
    .ok (if negative then -n else n)

/-- The integer that a text writes. -/
def read (cs : Text) : Except Fault Int :=
  let (sign, body) : Text × Text :=
    match Blank.trim cs with
    | '-' :: body => (['-'], body)
    | '+' :: body => ([], body)
    | body => ([], body)
  match withoutZeros? body with
  | none => .error .malformed
  | some body => ofNumeral (sign ++ withoutUnderscores (withoutFraction body))

example : (read " +1_000.0 ".toList).toOption = some 1000 := by decide +kernel

example : (read "00-7".toList).toOption = some (-7) := by decide +kernel

example : (read "1__0".toList).toOption = none := by decide +kernel

end ShaderDowngrade.WrittenInt

/-!
# Binary floating point

The finite double-precision numbers are the products `m · 2 ^ q` with `m < 2 ^ 53` and
`-1074 ≤ q ≤ 971`. A decimal is read as the nearest of them, and as the one with the even `m` if
two are equally near. All arithmetic is exact, on natural numbers.
-/

namespace ShaderDowngrade

/-- A double-precision number. -/
inductive Binary64 where
  /-- Not a number. -/
  | nan
  /-- An infinity. -/
  | infinite (negative : Bool)
  /-- The number `mantissa · 2 ^ exponent`, or its negation. -/
  | finite (negative : Bool) (mantissa : Nat) (exponent : Int)
deriving DecidableEq, Repr

namespace Binary64

/-- The quotient to the nearest natural number, halves to the even neighbour. -/
def roundDiv (num den : Nat) : Nat :=
  let q := num / den
  let r := num % den
  if den < 2 * r ∨ den = 2 * r ∧ q % 2 = 1 then q + 1 else q

/-- `num / den` in units of `2 ^ q`, as a quotient of natural numbers. -/
def scaled (num den : Nat) (q : Int) : Nat × Nat :=
  (num * Nat.pow 2 (-q).toNat, den * Nat.pow 2 q.toNat)

/-- The number nearest to the quotient of two positive natural numbers. -/
def ofRatio (negative : Bool) (num den : Nat) : Binary64 :=
  let low : Int := num.log2 - den.log2 - 53
  let exact := scaled num den low
  let fitted := if exact.1 < Nat.pow 2 53 * exact.2 then low else low + 1
  let q := max fitted (-1074)
  let (n, d) := scaled num den q
  let m := roundDiv n d
  let (m, q) := if m = Nat.pow 2 53 then (Nat.pow 2 52, q + 1) else (m, q)
  if 971 < q then .infinite negative else .finite negative m q

/-- The number nearest to `digits · 10 ^ exponent`. Decimals beyond `10 ^ 310` and below
`10 ^ (-326)` are decided by their size alone. -/
def ofDecimal (negative : Bool) (digits : Nat) (exponent : Int) : Binary64 :=
  if digits = 0 then .finite negative 0 (-1074)
  else
    let size := (Nat.toDigits 10 digits).length + exponent
    if 310 < size then .infinite negative
    else if size < -326 then .finite negative 0 (-1074)
    else ofRatio negative (digits * Nat.pow 10 exponent.toNat) (Nat.pow 10 (-exponent).toNat)

/-- The integer that the number is, if it is one. -/
def toInt? : Binary64 → Option Int
  | .nan | .infinite _ => none
  | .finite negative mantissa exponent =>
    let den := Nat.pow 2 (-exponent).toNat
    let num := mantissa * Nat.pow 2 exponent.toNat
    let whole : Int := (num / den : Nat)
    if num % den = 0 then some (if negative then -whole else whole) else none

example : ofDecimal false 1 0 = .finite false (Nat.pow 2 52) (-52) := by decide +kernel

example : ofDecimal false 5 (-324) = .finite false 1 (-1074) := by decide +kernel

end Binary64

end ShaderDowngrade

import ShaderDowngrade.Number.Binary64

/-!
# Shortest decimals

A double-precision number is written with the fewest digits that read back as the same number,
and of the decimals with that many digits the nearest. The decimals that read back are those
between the midpoints to the neighbours, the midpoints included if the mantissa is even.

Seventeen digits always suffice, so the search runs over one to seventeen of them, and on each
grid looks at the two neighbours of the number.
-/

namespace ShaderDowngrade.Binary64

/-- The quotient `x · 2 ^ (q - 2) / 10 ^ p`, as a quotient of natural numbers. -/
def onGrid (x : Nat) (q p : Int) : Nat × Nat :=
  (x * Nat.pow 2 (q - 2).toNat * Nat.pow 10 (-p).toNat,
    Nat.pow 2 (2 - q).toNat * Nat.pow 10 p.toNat)

/-- The number of digits before the decimal point of `m · 2 ^ q`; for a number below one tenth,
minus the number of zeros that follow the point. -/
def pointPosition (m : Nat) (q : Int) : Int :=
  let (n, d) := onGrid (4 * m) q (-400)
  (Nat.toDigits 10 (n / d)).length - 400

/-- The decimal with `count` digits that is nearest to `m · 2 ^ q` among those that read back,
as digits and exponent. -/
def decimalOf? (m : Nat) (q : Int) (count : Nat) : Option (Nat × Int) :=
  let p := pointPosition m q - count
  let (n, d) := onGrid (4 * m) q p
  let below := (onGrid (if m = Nat.pow 2 52 ∧ -1074 < q then 4 * m - 1 else 4 * m - 2) q p).1
  let above := (onGrid (4 * m + 2) q p).1
  let readsBack (c : Nat) : Bool :=
    if m % 2 = 0 then below ≤ c * d && c * d ≤ above else below < c * d && c * d < above
  let c := n / d
  match readsBack c, readsBack (c + 1) with
  | true, true =>
    if 2 * (n % d) < d ∨ 2 * (n % d) = d ∧ c % 2 = 0 then some (c, p) else some (c + 1, p)
  | true, false => some (c, p)
  | false, true => some (c + 1, p)
  | false, false => none

/-- The shortest decimal of `m · 2 ^ q`, for a positive `m`. -/
def shortest (m : Nat) (q : Int) : Nat × Int :=
  ((List.range 17).findSome? fun k ↦ decimalOf? m q (k + 1)).getD (m, q)

/-- The digits of a number without the zeros at its end. -/
def significantDigits (n : Nat) : List Char :=
  ((Nat.toDigits 10 n).reverse.dropWhile (· == '0')).reverse

/-- The text of a number: plain, with at least one digit on either side of the point, if the first
digit stands within four places after the point or sixteen before it, and with an exponent of at
least two digits otherwise. -/
def toText : Binary64 → String
  | .nan => "nan"
  | .infinite negative => if negative then "-inf" else "inf"
  | .finite negative m q =>
    let sign := if negative then "-" else ""
    if m = 0 then sign ++ "0.0"
    else
      let (n, p) := shortest m q
      let digits := significantDigits n
      let point : Int := (Nat.toDigits 10 n).length + p
      let zeros (k : Int) : List Char := List.replicate k.toNat '0'
      let body : List Char :=
        if point ≤ -4 ∨ 16 < point then
          let e := point - 1
          let exponent := Nat.toDigits 10 e.natAbs
          let fraction := digits.drop 1
          digits.take 1 ++ (if fraction.isEmpty then [] else '.' :: fraction) ++
            'e' :: (if e < 0 then '-' else '+') :: (zeros (2 - exponent.length) ++ exponent)
        else if point ≤ 0 then '0' :: '.' :: (zeros (-point) ++ digits)
        else
          let whole := digits.take point.toNat ++ zeros (point - digits.length)
          let fraction := digits.drop point.toNat
          whole ++ '.' :: (if fraction.isEmpty then ['0'] else fraction)
      sign ++ String.ofList body

end ShaderDowngrade.Binary64

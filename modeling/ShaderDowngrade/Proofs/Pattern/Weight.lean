import Mathlib.Algebra.BigOperators.Ring.List
import Mathlib.Algebra.Order.Ring.Int
import ShaderDowngrade.Proofs.Pattern.Rewriting

/-!
# Weights of texts

Give each character a weight. The weight of a text is the sum of the weights of its characters, and
replacing all matches of a pattern adds up, match by match, what each replacement weighs more than
what it replaces: how the matches lie in the text does not matter.

Main statements: `Pattern.Rewrites.weight_le`, a bound for each match bounds the whole text;
`Pattern.Rewrites.weight_lt`, if every replacement outweighs its match, then a text in which the
pattern occurs gets heavier.

## Why two weights

`weight_le` weighs the result with one weight and the text with another, so that it also bounds how
much longer a text gets: count a character of the result as one, and a character of the text as
many.
-/

namespace ShaderDowngrade

namespace Text

/-- The weight of a text is the sum of the weights of its characters. -/
def weight (f : Char → ℤ) (t : Text) : ℤ := (t.map f).sum

variable {f g : Char → ℤ} {s t : Text}

@[simp] theorem weight_nil (f : Char → ℤ) : weight f [] = 0 := rfl

@[simp] theorem weight_cons (f : Char → ℤ) (c : Char) (t : Text) :
    weight f (c :: t) = f c + weight f t := by
  rw [weight, List.map_cons, List.sum_cons, weight]

@[simp] theorem weight_append (f : Char → ℤ) (s t : Text) :
    weight f (s ++ t) = weight f s + weight f t := by
  rw [weight, List.map_append, List.sum_append, weight, weight]

theorem weight_nonpos (h : ∀ c ∈ t, f c ≤ 0) : weight f t ≤ 0 := by
  induction t with
  | nil => rfl
  | cons c t ih =>
    obtain ⟨hc, ht⟩ := List.forall_mem_cons.1 h
    rw [weight_cons]
    exact add_nonpos hc (ih ht)

theorem length_le_weight (hf : ∀ c, 1 ≤ f c) (t : Text) : (t.length : ℤ) ≤ weight f t := by
  induction t with
  | nil => exact le_refl 0
  | cons c t ih =>
    have hc := hf c
    rw [weight_cons, List.length_cons, Nat.cast_succ]
    omega

theorem weight_mul (k : ℤ) (t : Text) : weight (fun c ↦ k * f c) t = k * weight f t := by
  rw [weight, List.sum_map_mul_left, ← weight]

end Text

namespace Pattern.Rewrites

open Text (weight)

variable {p : Pattern} {replacement : Match → Text} {s t : Text} {f g : Char → ℤ}

theorem weight_le (h : p.Rewrites replacement s t) (hkept : ∀ c, f c ≤ g c)
    (hfound : ∀ m, p.expr.Spells m.text m.groups → weight f (replacement m) ≤ weight g m.text) :
    weight f t ≤ weight g s := by
  induction h with
  | done => exact le_refl 0
  | @keep c b b' _ _ ih =>
    rw [Text.weight_cons, Text.weight_cons]
    exact add_le_add (hkept c) ih
  | @found m b b' hm _ ih =>
    rw [Text.weight_append, Text.weight_append]
    exact add_le_add (hfound m hm) ih

theorem weight_eq (h : p.Rewrites replacement s t)
    (hfound : ∀ m, p.expr.Spells m.text m.groups → weight f (replacement m) = weight f m.text) :
    weight f t = weight f s := by
  induction h with
  | done => rfl
  | @keep c b b' _ _ ih => rw [Text.weight_cons, Text.weight_cons, ih]
  | @found m b b' hm _ ih => rw [Text.weight_append, Text.weight_append, hfound m hm, ih]

theorem weight_lt (h : p.Rewrites replacement s t)
    (hfound : ∀ m, p.expr.Spells m.text m.groups → weight f m.text < weight f (replacement m))
    (hs : Text.Occurs p.words s) (hne : [] ∉ p.words) : weight f s < weight f t := by
  -- the part of the text in which the pattern does not occur any more stays as it is
  have hle {b b' : Text} (h : p.Rewrites replacement b b')
      (ih : Text.Occurs p.words b → weight f b < weight f b') : weight f b ≤ weight f b' := by
    by_cases hb : Text.Occurs p.words b
    · exact (ih hb).le
    · rw [h.eq_of_not_occurs hb]
  induction h with
  | done =>
    obtain ⟨w, hw, hwt⟩ := hs
    rw [List.infix_nil] at hwt
    exact absurd (hwt ▸ hw) hne
  | @keep c b b' hc _ ih =>
    obtain ⟨w, hw, hwt⟩ := hs
    rw [Text.weight_cons, Text.weight_cons]
    rcases List.infix_cons_iff.1 hwt with hpre | hin
    · exact absurd hpre (hc w hw)
    · exact add_lt_add_right (ih ⟨w, hw, hin⟩) (f c)
  | @found m b b' hm h ih =>
    rw [Text.weight_append, Text.weight_append]
    exact add_lt_add_of_lt_of_le (hfound m hm) (hle h ih)

end Pattern.Rewrites

end ShaderDowngrade

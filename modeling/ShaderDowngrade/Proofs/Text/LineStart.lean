import ShaderDowngrade.Proofs.Text.Apart

/-!
# Words at the start of a line

Taking out a word that begins a line joins two pieces of text, but the first of them ends in a
newline or is empty. A word without a newline is therefore never joined in this way.

Main statements: `Text.Swaps.startsLines`, exchanges that do not touch the words, and do not take a
newline away from in front of them, keep them at the starts of lines;
`Text.StartsLines.getLast?_eq_newline`, nothing but a newline stands directly before such a word.
-/

namespace ShaderDowngrade.Text

/-- Wherever a word of the set occurs in the text, it begins the text or stands behind a newline. -/
def StartsLines (X : Set Text) (t : Text) : Prop :=
  ∀ ⦃u x v⦄, x ∈ X → t = u ++ x ++ v → u = [] ∨ u.getLast? = some '\n'

variable {W X Y : Set Text} {s t : Text}

theorem Swap.startsLines (h : Swap X Y s t) (hX : ∀ x ∈ X, ∃ c ≠ '\n', x.getLast? = some c)
    (hY : Apart W Y) (hs : StartsLines W s) : StartsLines W t := by
  intro u w v hw ht
  cases h with
  | @mk a b x y hx hy =>
    rcases hY hw hy ht with ⟨r, rfl, -⟩ | ⟨r, rfl, rfl⟩
    · exact hs (u := u) (v := r ++ x ++ b) hw (by simp)
    · obtain ⟨c, hc, hlast⟩ := hX x hx
      rcases hs (u := a ++ x ++ r) (v := v) hw (by simp) with hnil | hnewline
      · obtain rfl : x = [] := (List.append_eq_nil_iff.1 (List.append_eq_nil_iff.1 hnil).1).2
        cases hlast
      · refine .inr ?_
        -- the newline stands behind the piece, since the piece does not end in one
        cases hr : r.getLast? with
        | none =>
          rw [List.getLast?_append, hr, Option.none_or, List.getLast?_append, hlast,
            Option.some_or, Option.some_inj] at hnewline
          exact absurd hnewline hc
        | some d =>
          rw [List.getLast?_append, hr, Option.some_or] at hnewline ⊢
          exact hnewline

/-- Exchanges that do not touch the words, and take out no piece that ends in a newline, keep the
words at the starts of lines. -/
theorem Swaps.startsLines (h : Swaps X Y s t) (hX : ∀ x ∈ X, ∃ c ≠ '\n', x.getLast? = some c)
    (hY : Apart W Y) (hs : StartsLines W s) : StartsLines W t := by
  induction h with
  | refl => exact hs
  | tail _ hstep ih => exact hstep.startsLines hX hY ih

theorem StartsLines.getLast?_eq_newline (h : StartsLines X t) {k x : Text} (hx : x ∈ X)
    (hk : k ≠ []) (hi : k ++ x <:+: t) : k.getLast? = some '\n' := by
  obtain ⟨u, v, rfl⟩ := hi
  rcases h (u := u ++ k) (v := v) hx (by simp) with hnil | hnewline
  · exact absurd (List.append_eq_nil_iff.1 hnil).2 hk
  · obtain ⟨c, hc⟩ := Option.ne_none_iff_exists'.1 (mt List.getLast?_eq_none_iff.1 hk)
    rw [List.getLast?_append, hc, Option.some_or] at hnewline
    rw [hc, hnewline]

end ShaderDowngrade.Text

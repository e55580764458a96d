import ShaderDowngrade.Proofs.Text.Apart

/-!
# Which of two words comes first

The order of two words in a text is read off their first positions. For words that cannot overlap
it does not depend on what is exchanged around them, and putting one of them in front of the text
settles it.

Main statements: `Text.startsBefore_iff_precedes`, the comparison of first positions in terms of the
text around an occurrence; `Text.startsBefore_of_prefix_second` and
`Text.startsBefore_of_prefix_first`, the order in a text that begins with one of the words.
-/

namespace ShaderDowngrade.Text

/-- Whether both words occur in the text, and the first occurrence of `first` begins before that of
`second`. -/
def startsBefore (first second text : Text) : Bool :=
  match indexOf? text first, indexOf? text second with
  | some i, some j => i < j
  | _, _ => false

variable {first second t w : Text}

theorem indexOf?_eq_some {n : Nat} (h : indexOf? t w = some n) :
    (∃ a b, t = a ++ w ++ b ∧ a.length = n) ∧ ∀ a b, t = a ++ w ++ b → n ≤ a.length := by
  induction t generalizing n with
  | nil =>
    cases w with
    | nil =>
      obtain rfl : 0 = n := by simpa [indexOf?] using h
      exact ⟨⟨[], [], rfl, rfl⟩, fun _ _ _ ↦ Nat.zero_le _⟩
    | cons c cs => simp [indexOf?] at h
  | cons c cs ih =>
    by_cases hpre : w.isPrefixOf (c :: cs) = true
    · obtain rfl : 0 = n := by simpa [indexOf?, hpre] using h
      obtain ⟨b, hb⟩ := List.isPrefixOf_iff_prefix.1 hpre
      exact ⟨⟨[], b, hb.symm, rfl⟩, fun _ _ _ ↦ Nat.zero_le _⟩
    · rw [indexOf?, if_neg hpre, Option.map_eq_some_iff] at h
      obtain ⟨m, hm, rfl⟩ := h
      obtain ⟨⟨a, b, rfl, rfl⟩, hmin⟩ := ih hm
      refine ⟨⟨c :: a, b, rfl, rfl⟩, fun a' b' h' ↦ ?_⟩
      cases a' with
      | nil => exact absurd (List.isPrefixOf_iff_prefix.2 ⟨b', h'.symm⟩) hpre
      | cons d a' => exact Nat.succ_le_succ (hmin a' b' (List.cons.inj h').2)

theorem exists_indexOf?_of_infix (h : w <:+: t) : ∃ n, indexOf? t w = some n := by
  rw [← Option.isSome_iff_exists, indexOf?_isSome, includes_iff]
  exact h

theorem indexOf?_of_prefix (h : w <+: t) : indexOf? t w = some 0 := by
  obtain ⟨n, hn⟩ := exists_indexOf?_of_infix h.isInfix
  obtain ⟨b, hb⟩ := h
  have := (indexOf?_eq_some hn).2 [] b hb.symm
  rw [hn, Nat.le_zero.1 this]

theorem startsBefore_iff_precedes (hne : first ≠ []) (hapart : Apart {second} {first}) :
    startsBefore first second t = true ↔ Precedes first second t := by
  constructor
  · intro h
    rw [startsBefore] at h
    split at h
    · rename_i i j hi hj
      obtain ⟨⟨a, b, ht, rfl⟩, -⟩ := indexOf?_eq_some hi
      obtain ⟨⟨a', b', ht', rfl⟩, hmin⟩ := indexOf?_eq_some hj
      refine ⟨⟨second, rfl, a', b', ht'.symm⟩, a, b, ht, ?_⟩
      -- a `second` before this `first` would be before the first `second`
      rintro ⟨_, rfl, u, v, rfl⟩
      have := hmin u (v ++ first ++ b) (by simp [ht])
      simp at h
      omega
    · cases h
  · rintro ⟨⟨_, rfl, hsecond⟩, a, b, rfl, hnot⟩
    obtain ⟨i, hi⟩ := exists_indexOf?_of_infix (⟨a, b, rfl⟩ : first <:+: a ++ first ++ b)
    obtain ⟨j, hj⟩ := exists_indexOf?_of_infix hsecond
    have hle := (indexOf?_eq_some hi).2 a b rfl
    obtain ⟨⟨a', b', ht, rfl⟩, -⟩ := indexOf?_eq_some hj
    -- the first `second` does not overlap this `first`, and is not in front of it
    have hlt : a.length < a'.length := by
      rcases hapart rfl rfl ht with ⟨s, rfl, -⟩ | ⟨s, -, rfl⟩
      · exact absurd ⟨_, rfl, a', s, rfl⟩ hnot
      · have := List.length_pos_iff.2 hne
        simp
        omega
    simp only [startsBefore, hi, hj, decide_eq_true_eq]
    omega

theorem startsBefore_of_prefix_second (h : second <+: t) : startsBefore first second t = false := by
  rw [startsBefore, indexOf?_of_prefix h]
  cases indexOf? t first <;> simp

/-- A word that begins the text comes before every word that occurs, unless that one begins the text
too. -/
theorem startsBefore_of_prefix_first (h : first <+: t) (hsecond : ¬ second <+: t) :
    startsBefore first second t = includes t second := by
  rw [startsBefore, indexOf?_of_prefix h, ← indexOf?_isSome]
  cases hj : indexOf? t second with
  | none => rfl
  | some j =>
    obtain ⟨⟨a, b, rfl, rfl⟩, -⟩ := indexOf?_eq_some hj
    have hne : a ≠ [] := by
      rintro rfl
      exact hsecond ⟨b, rfl⟩
    simpa using List.length_pos_iff.2 hne

end ShaderDowngrade.Text

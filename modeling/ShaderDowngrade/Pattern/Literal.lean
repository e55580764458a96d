import ShaderDowngrade.Pattern.Reader

/-!
# Literal patterns

A word becomes a pattern for exactly that word by a backslash before each of its characters that
could mean something else.

Main statement: `Pattern.read_escape`, reading an escaped word gives the literal pattern, whatever
the word.
-/

namespace ShaderDowngrade.Pattern

/-- The characters that are escaped. -/
def specials : List Char :=
  ['\t', '\n', '\x0b', '\x0c', '\r', ' ', '#', '$', '&', '(', ')', '*', '+', '-', '.', '?', '[',
   '\\', ']', '^', '{', '|', '}', '~']

/-- The word with a backslash before each special character. -/
def escape (word : Text) : Text :=
  word.flatMap fun c ↦ if c ∈ specials then ['\\', c] else [c]

/-- The pattern that matches exactly the word. -/
def literal (word : Text) : Pattern := ⟨String.ofList (escape word), .word word⟩

/-! ## Reading an escaped word -/

theorem escapeExpr_of_mem_specials {c : Char} (h : c ∈ specials) :
    escapeExpr c = .ok (.char c) := by
  simp only [specials, List.mem_cons, List.not_mem_nil, or_false] at h
  rcases h with h | h | h | h | h | h | h | h | h | h | h | h | h | h | h | h | h | h | h | h | h |
    h | h | h <;> subst h <;> rfl

theorem repetition?_escape (word : Text) : repetition? (escape word) = none := by
  cases word with
  | nil => rfl
  | cons c cs =>
    by_cases h : c ∈ specials
    · simp [escape, h, repetition?]
    · have : c ≠ '*' ∧ c ≠ '+' ∧ c ≠ '?' ∧ c ≠ '{' := by
        refine ⟨?_, ?_, ?_, ?_⟩ <;> rintro rfl <;> exact h (by decide)
      simp only [escape, List.flatMap_cons, h, if_false, List.cons_append, List.nil_append]
      unfold repetition?
      split <;> simp_all

theorem readSequence_escape (word : Text) (fuel next : Nat) (h : word.length < fuel) :
    readSequence (fuel + 1) next (escape word) = .ok ⟨.word word, next, []⟩ := by
  induction word generalizing fuel with
  | nil => rw [show escape [] = [] from rfl, readSequence]; rfl
  | cons c cs ih =>
    obtain ⟨fuel, rfl⟩ : ∃ k, fuel = k + 1 := ⟨fuel - 1, by simp at h; omega⟩
    have hrest := ih fuel (by simpa using h)
    have hrep (e : Expr) : readRepetition e (escape cs) = .ok (e, escape cs) := by
      simp [readRepetition, repetition?_escape]
    by_cases hc : c ∈ specials
    · have hesc : escape (c :: cs) = '\\' :: c :: escape cs := by simp [escape, hc]
      rw [hesc, readSequence]
      · simp only [readItem, escapeExpr_of_mem_specials hc, bind, Except.bind, pure, Except.pure,
          hrep, hrest]
        rfl
      all_goals simp
    · have hesc : escape (c :: cs) = c :: escape cs := by simp [escape, hc]
      have hne : ∀ d ∈ specials, c ≠ d := fun d hd e ↦ hc (e ▸ hd)
      have hitem : readItem (fuel + 1) next c (escape cs) = .ok ⟨.char c, next, escape cs⟩ := by
        simp only [specials, List.mem_cons, List.not_mem_nil, or_false, forall_eq_or_imp,
          forall_eq] at hne
        unfold readItem
        split <;> simp_all
      rw [hesc, readSequence]
      · simp only [hitem, bind, Except.bind, pure, Except.pure, hrep, hrest]
        rfl
      · exact fun h ↦ hne '|' (by decide) h
      · exact fun h ↦ hne ')' (by decide) h

theorem length_le_length_escape (word : Text) : word.length ≤ (escape word).length := by
  induction word with
  | nil => exact Nat.le_refl _
  | cons c cs ih =>
    have : escape (c :: cs) = (if c ∈ specials then ['\\', c] else [c]) ++ escape cs := rfl
    rw [this, List.length_append, List.length_cons]
    split <;> simp only [List.length_cons, List.length_nil] <;> omega

theorem read_escape (word : Text) : read (String.ofList (escape word)) = .ok (literal word) := by
  have h := length_le_length_escape word
  simp only [read, String.toList_ofList, readAlternatives, bind, Except.bind]
  rw [readSequence_escape word _ _ (by omega)]
  rfl

end ShaderDowngrade.Pattern

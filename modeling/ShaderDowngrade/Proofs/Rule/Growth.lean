import ShaderDowngrade.Proofs.Ledger.RoundTrip
import ShaderDowngrade.Proofs.Pattern.Weight
import ShaderDowngrade.Proofs.Rule.Output
import ShaderDowngrade.Proofs.Rule.Trace

/-!
# How much a run can add

A substitution is gentle if no replacement is more than five times as heavy as its match, and a
directive is if its line fits into a fixed allowance. However the rules are nested, each gentle rule
multiplies the weight of a text, the allowance included, by five at most. The number of matches that
an entry counts is bounded along with the weight.

Main statements: `Pattern.count_le`, a text has not many more matches than characters;
`Rule.within_applyAll`, a run of gentle rules goes through and is bounded.

## Why the allowance is part of the load

A directive adds a line and does not multiply anything. With room for a line in the load from the
start, adding the line and multiplying by five are one and the same kind of step, and the steps
compose without a sum.
-/

namespace ShaderDowngrade

open Text (weight)

/-! ## Numbers of matches -/

/-- A character begins at most two matches, the first of them empty, and one more may stand at the
end. -/
theorem Expr.length_filterMap_piecesFrom_le (e : Expr) (position skip : ℕ) (t : Text) :
    ((e.piecesFrom position skip t).filterMap Piece.match?).length ≤ 2 * t.length + 1 := by
  induction t generalizing position skip with
  | nil =>
    cases skip with
    | zero => cases h : e.matchAt position true [] <;> simp [piecesFrom, h, Piece.match?]
    | succ k => simp [piecesFrom]
  | cons c cs ih =>
    cases skip with
    | succ k =>
      have hrest := ih (position + 1) k
      rw [piecesFrom, List.length_cons]
      omega
    | zero =>
      rw [piecesFrom, List.length_cons]
      split
      · have hrest := ih (position + 1) 0
        simp only [List.filterMap_cons, Piece.match?]
        omega
      · split
        · rename_i more _
          have hrest := ih (position + 1) more.length
          simp only [List.filterMap_cons, Piece.match?, List.length_cons]
          omega
        · split
          · have hrest := ih (position + 1) 0
            simp only [List.filterMap_cons, Piece.match?, List.length_cons]
            omega
          · rename_i m' _
            have hrest := ih (position + 1) (m'.text.length - 1)
            simp only [List.filterMap_cons, Piece.match?, List.length_cons]
            omega

theorem Pattern.count_le (p : Pattern) (t : Text) : p.count t ≤ 2 * t.length + 1 :=
  p.expr.length_filterMap_piecesFrom_le 0 0 t

/-! ## Loads -/

/-- How many times as heavy as its match a replacement may be. -/
def growthFactor : ℤ := 5

/-- The weight of a line that may be put in front of a text. -/
def lineAllowance : ℤ := 50

/-- The weight of a text with an allowance for a line. -/
def load (f : Char → ℤ) (t : Text) : ℤ := weight f t + lineAllowance

variable {f : Char → ℤ} {stage : Stage} {t : Text} {n m : ℤ}

/-- An entry with texts for strings that counts at most `n` matches. -/
structure Entry.Modest (n : ℤ) (e : Entry) : Prop where
  rule : e.rule.IsText
  group : e.group.IsText
  inserted : e.inserted.IsText
  description : e.description.IsText
  matchCount_nonneg : 0 ≤ e.matchCount
  matchCount_le : e.matchCount ≤ n

/-- A run that goes through, with a load of at most `n` and entries to match. -/
structure Run.Within (f : Char → ℤ) (n : ℤ) (run : Run) : Prop where
  fault : run.fault = none
  load_le : load f run.text ≤ n
  entries : ∀ e ∈ run.entries, e.Modest (2 * n)

namespace Run

variable {run : Run} {next : Text → Run}

theorem Within.mono (h : run.Within f n) (hn : n ≤ m) : run.Within f m where
  fault := h.fault
  load_le := h.load_le.trans hn
  entries e he := { h.entries e he with
    matchCount_le := (h.entries e he).matchCount_le.trans (by omega) }

theorem Within.andThen (h : run.Within f n) (hn : n ≤ m) (hnext : (next run.text).Within f m) :
    (run.andThen next).Within f m := by
  rw [Run.andThen, h.fault]
  refine ⟨hnext.fault, hnext.load_le, ?_⟩
  exact List.forall_mem_append.2 ⟨(h.mono hn).entries, hnext.entries⟩

end Run

namespace Rule

/-- What makes a rule gentle for a weight of characters. A group has only to look for something; its
rules are asked about on their own. -/
def Gentle (f : Char → ℤ) (stage : Stage) : Rule → Prop
  | .substitute r => r.gate.admits stage = true →
      ∃ replacement, (Rule.substitute r).Replaces stage r.pattern replacement ∧
        ∀ m, r.pattern.expr.Spells m.text m.groups →
          weight f (replacement m) ≤ growthFactor * weight f m.text
  | .prepend r => weight f (r.directive.toList ++ directiveSeparator) ≤ lineAllowance
  | .group .. => True

/-! ## One rule -/

theorem load_nonneg (hf : ∀ c, 1 ≤ f c) (ht : load f t ≤ n) : 0 ≤ n := by
  have := Text.length_le_weight hf t
  rw [load, lineAllowance] at ht
  omega

theorem count_le_load (hf : ∀ c, 1 ≤ f c) (p : Pattern) (ht : load f t ≤ n) :
    (p.count t : ℤ) ≤ 2 * n := by
  have hcount := p.count_le t
  have hlength := Text.length_le_weight hf t
  rw [load, lineAllowance] at ht
  omega

theorem modest_heading {name inserted description outer : String} {gate : Gate} {fired : Bool}
    {skip : Skip} {hits : ℤ} (hnonneg : 0 ≤ hits) (hle : hits ≤ n) :
    Entry.Modest n { rule := name, gate, group := outer, fired, matchCount := hits, skip
                     inserted, description } :=
  ⟨Ledger.isText_coe _, Ledger.isText_coe _, Ledger.isText_coe _, Ledger.isText_coe _, hnonneg, hle⟩

theorem within_of_not_admits {r : Rule} (hf : ∀ c, 1 ≤ f c) (hgate : r.admits stage = false)
    (outer : String) (ht : load f t ≤ n) : (r.apply stage outer t).Within f n := by
  have hn := load_nonneg hf ht
  rw [apply_of_not_admits hgate]
  exact ⟨rfl, ht, List.forall_mem_singleton.2 (modest_heading (le_refl 0) (by omega))⟩

theorem le_growth (hn : 0 ≤ n) : n ≤ growthFactor * n := by
  rw [growthFactor]
  omega

theorem within_substitute {r : Substitution} (hf : ∀ c, 1 ≤ f c)
    (h : (Rule.substitute r).Gentle f stage) (outer : String) (ht : load f t ≤ n) :
    ((Rule.substitute r).apply stage outer t).Within f (growthFactor * n) := by
  have hn := load_nonneg hf ht
  by_cases hgate : r.gate.admits stage = true
  · obtain ⟨replacement, hreplaces, hbound⟩ := h hgate
    obtain ⟨htext, hfault⟩ := apply_outer (.substitute r) stage outer t
    rw [hreplaces.applicable t] at hfault
    refine ⟨hfault, ?_, ?_⟩
    · have hweight : weight f ((Rule.substitute r).output stage t) ≤
          weight (fun c ↦ growthFactor * f c) t := by
        refine (hreplaces.rewrites t).weight_le (fun c ↦ ?_) fun m hm ↦ ?_
        · exact le_growth (le_trans zero_le_one (hf c))
        · rw [Text.weight_mul]
          exact hbound m hm
      rw [Text.weight_mul] at hweight
      rw [htext, load]
      rw [load] at ht
      simp only [growthFactor, lineAllowance] at *
      omega
    · rw [apply, Substitution.apply, if_pos hgate] at hfault ⊢
      split at hfault
      · cases hfault
      · have hcount := count_le_load hf r.pattern ht
        refine List.forall_mem_singleton.2 (modest_heading (Int.natCast_nonneg _) ?_)
        exact hcount.trans (by have := le_growth hn; omega)
  · rw [Bool.not_eq_true] at hgate
    exact (within_of_not_admits (r := .substitute r) hf hgate outer ht).mono (le_growth hn)

theorem within_prepend {r : Prepend} (hf : ∀ c, 1 ≤ f c) (h : (Rule.prepend r).Gentle f stage)
    (outer : String) (ht : load f t ≤ n) :
    ((Rule.prepend r).apply stage outer t).Within f (growthFactor * n) := by
  have hn := load_nonneg hf ht
  by_cases hgate : r.gate.admits stage = true
  · have hline : weight f (r.directive.toList ++ directiveSeparator) ≤ lineAllowance := h
    have hlength := Text.length_le_weight hf t
    rw [apply, Prepend.apply, if_pos hgate]
    rw [load] at ht
    simp only [growthFactor, lineAllowance] at *
    refine ⟨rfl, ?_, List.forall_mem_singleton.2 (modest_heading zero_le_one (by omega))⟩
    rw [load, prependDirective, Text.weight_append, lineAllowance]
    omega
  · rw [Bool.not_eq_true] at hgate
    exact (within_of_not_admits (r := .prepend r) hf hgate outer ht).mono (le_growth hn)

/-! ## All rules -/

theorem growth_mono (hn : 0 ≤ n) {i j : ℕ} (hij : i ≤ j) :
    growthFactor ^ i * n ≤ growthFactor ^ j * n :=
  mul_le_mul_of_nonneg_right (pow_le_pow_right₀ (by decide) hij) hn

mutual

theorem within_apply (hf : ∀ c, 1 ≤ f c) : ∀ (r : Rule) (outer : String) (t : Text) (n : ℤ),
    (∀ q ∈ r.nested, q.Gentle f stage) → load f t ≤ n →
      (r.apply stage outer t).Within f (growthFactor ^ r.nested.length * n)
  | .substitute r, outer, t, n, h, ht => by
    rw [nested, List.length_singleton, pow_one]
    exact within_substitute hf (h _ (self_mem_nested _)) outer ht
  | .prepend r, outer, t, n, h, ht => by
    rw [nested, List.length_singleton, pow_one]
    exact within_prepend hf (h _ (self_mem_nested _)) outer ht
  | .group name probe gate description rules, outer, t, n, h, ht => by
    have hn := load_nonneg hf ht
    have hrules : ∀ q ∈ nestedAll rules, q.Gentle f stage := fun q hq ↦
      h q (nestedAll_inner_subset (.group name probe gate description rules) hq)
    have hmore : n ≤ growthFactor ^ (nestedAll rules).length * n := by
      simpa using growth_mono hn (Nat.zero_le (nestedAll rules).length)
    have hgrow : growthFactor ^ (nestedAll rules).length * n ≤
        growthFactor ^ ((nestedAll rules).length + 1) * n := growth_mono hn (Nat.le_succ _)
    have hfirst : n ≤ growthFactor ^ ((nestedAll rules).length + 1) * n := hmore.trans hgrow
    rw [nested, List.length_cons]
    by_cases hgate : gate.admits stage = true
    · rw [apply, if_pos hgate]
      have hcount := count_le_load hf probe ht
      dsimp only
      split
      · refine Run.Within.mono ⟨rfl, ht, ?_⟩ hfirst
        exact List.forall_mem_singleton.2 (modest_heading (le_refl 0) (by omega))
      · refine Run.Within.andThen (n := n) ⟨rfl, ht, ?_⟩ hfirst
          ((within_applyAll hf rules name t n hrules ht).mono hgrow)
        exact List.forall_mem_singleton.2 (modest_heading (Int.natCast_nonneg _) hcount)
    · rw [Bool.not_eq_true] at hgate
      exact (within_of_not_admits (r := .group name probe gate description rules) hf hgate outer
        ht).mono hfirst

/-- **A run of gentle rules** goes through, and each of them multiplies the load by five at most. -/
theorem within_applyAll (hf : ∀ c, 1 ≤ f c) : ∀ (rules : List Rule) (outer : String) (t : Text)
    (n : ℤ), (∀ q ∈ nestedAll rules, q.Gentle f stage) → load f t ≤ n →
      (applyAll rules stage outer t).Within f (growthFactor ^ (nestedAll rules).length * n)
  | [], outer, t, n, _, ht => by
    rw [applyAll, nestedAll, List.length_nil, pow_zero, one_mul]
    exact ⟨rfl, ht, List.forall_mem_nil _⟩
  | r :: rs, outer, t, n, h, ht => by
    have hn := load_nonneg hf ht
    have hfirst := within_apply hf r outer t n (fun q hq ↦ h q (List.mem_append_left _ hq)) ht
    have hrest := within_applyAll hf rs outer _ _ (fun q hq ↦ h q (List.mem_append_right _ hq))
      hfirst.load_le
    rw [← mul_assoc, ← pow_add, Nat.add_comm, ← List.length_append] at hrest
    rw [applyAll, nestedAll]
    refine hfirst.andThen (growth_mono hn ?_) hrest
    rw [List.length_append]
    exact Nat.le_add_right _ _

end

end Rule

end ShaderDowngrade

import ShaderDowngrade.Proofs.Pattern.Behind

/-!
# Scanning step by step

A scan does one of two things at the place where it is: it keeps a character, or it takes a match
and goes on behind it. For a plain pattern that never matches the empty text neither depends on
what has been scanned before, so the scan of a text is an equation for each of the two, and facts
about all matches of a text are proved by induction on the steps.

Main statements: `Pattern.pieces_cons_of_eq_none` and `Pattern.pieces_append_of_eq_some`, the two
steps; `Pattern.scan_induction`, the induction on them.
-/

namespace ShaderDowngrade

namespace Expr

theorem piecesFrom_length_append (e : Expr) (position : Nat) (u t : Text) :
    e.piecesFrom position u.length (u ++ t) = e.piecesFrom (position + u.length) 0 t := by
  induction u generalizing position with
  | nil => rfl
  | cons c u ih =>
    rw [List.cons_append, List.length_cons, piecesFrom, ih, Nat.add_assoc, Nat.add_comm 1]

theorem matchAt_eq_none {e : Expr} {position : Nat} {mayBeEmpty : Bool} {rest : Text}
    (h : ∀ w ∈ e.language, ¬ w <+: rest) : e.matchAt position mayBeEmpty rest = none := by
  rw [Option.eq_none_iff_forall_ne_some]
  intro m hm
  obtain ⟨hspells, hpre⟩ := spells_of_matchAt hm
  exact h m.text ⟨_, hspells⟩ hpre

theorem not_isPrefix_of_matchAt_eq_none {e : Expr} (he : e.Plain = true) {position : Nat}
    {rest w : Text} (h : e.matchAt position true rest = none) (hw : w ∈ e.language) :
    ¬ w <+: rest := by
  intro hpre
  obtain ⟨g, hw⟩ := hw
  have := isSome_matchAt he position hw hpre
  rw [h] at this
  cases this

end Expr

namespace Pattern

variable {p : Pattern} {m : Match} {c : Char} {t : Text}

theorem pieces_nil (hne : [] ∉ p.words) : p.pieces [] = [] := by
  have hend : p.expr.matchAt 0 true [] = none := by
    refine Expr.matchAt_eq_none fun w hw hpre ↦ hne ?_
    rwa [List.prefix_nil.1 hpre] at hw
  rw [pieces, Expr.piecesFrom, hend]
  rfl

theorem pieces_cons_of_eq_none (hp : p.expr.Plain = true)
    (h : p.expr.matchAt 0 true (c :: t) = none) : p.pieces (c :: t) = .kept c :: p.pieces t := by
  have hshift := Expr.piecesFrom_shift hp 1 0 0 t
  rw [pieces, Expr.piecesFrom, h]
  exact congrArg _ hshift

theorem pieces_append_of_eq_some (hp : p.expr.Plain = true) (hm : m.text ≠ [])
    (h : p.expr.matchAt 0 true (m.text ++ t) = some m) :
    p.pieces (m.text ++ t) = .found m :: p.pieces t := by
  obtain ⟨c, more, hcons⟩ := List.exists_cons_of_ne_nil hm
  have hshift := Expr.piecesFrom_shift hp (1 + more.length) 0 0 t
  rw [Nat.zero_add] at hshift
  rw [hcons, List.cons_append] at h ⊢
  rw [pieces, Expr.piecesFrom, h]
  simp only [hcons, Nat.zero_add]
  rw [Expr.piecesFrom_length_append, hshift, pieces]

/-! ## The matches and the replacements, step by step -/

variable {replacement : Match → Text}

theorem allMatches_nil (hne : [] ∉ p.words) : p.allMatches [] = [] := by
  rw [allMatches, pieces_nil hne, List.filterMap_nil]

theorem allMatches_cons_of_eq_none (hp : p.expr.Plain = true)
    (h : p.expr.matchAt 0 true (c :: t) = none) : p.allMatches (c :: t) = p.allMatches t := by
  rw [allMatches, pieces_cons_of_eq_none hp h]
  rfl

theorem allMatches_append_of_eq_some (hp : p.expr.Plain = true) (hm : m.text ≠ [])
    (h : p.expr.matchAt 0 true (m.text ++ t) = some m) :
    p.allMatches (m.text ++ t) = m :: p.allMatches t := by
  rw [allMatches, pieces_append_of_eq_some hp hm h]
  rfl

theorem replaceWith_nil (hne : [] ∉ p.words) : p.replaceWith replacement [] = [] := by
  rw [replaceWith, pieces_nil hne, List.flatMap_nil]

theorem replaceWith_cons_of_eq_none (hp : p.expr.Plain = true)
    (h : p.expr.matchAt 0 true (c :: t) = none) :
    p.replaceWith replacement (c :: t) = c :: p.replaceWith replacement t := by
  rw [replaceWith, pieces_cons_of_eq_none hp h]
  rfl

theorem replaceWith_append_of_eq_some (hp : p.expr.Plain = true) (hm : m.text ≠ [])
    (h : p.expr.matchAt 0 true (m.text ++ t) = some m) :
    p.replaceWith replacement (m.text ++ t) = replacement m ++ p.replaceWith replacement t := by
  rw [replaceWith, pieces_append_of_eq_some hp hm h]
  rfl

/-! ## Induction -/

/-- **Induction on the steps of a scan.** -/
theorem scan_induction {motive : Text → Prop} (hne : [] ∉ p.words) (nil : motive [])
    (kept : ∀ c t, p.expr.matchAt 0 true (c :: t) = none → motive t → motive (c :: t))
    (found : ∀ m t, p.expr.Spells m.text m.groups → m.text ≠ [] →
      p.expr.matchAt 0 true (m.text ++ t) = some m → motive t → motive (m.text ++ t))
    (t : Text) : motive t := by
  generalize hn : t.length = n
  induction n using Nat.strongRecOn generalizing t with
  | ind n ih =>
    cases t with
    | nil => exact nil
    | cons c t =>
      cases h : p.expr.matchAt 0 true (c :: t) with
      | none => exact kept c t h (ih t.length (by rw [← hn]; exact Nat.lt_succ_self _) t rfl)
      | some m =>
        obtain ⟨hspells, rest, hrest⟩ := Expr.spells_of_matchAt h
        have hm : m.text ≠ [] := fun hnil ↦ hne ⟨m.groups, hnil ▸ hspells⟩
        have hlt : rest.length < n := by
          have hpos := List.length_pos_iff.2 hm
          rw [← hn, ← hrest, List.length_append]
          omega
        rw [← hrest] at h ⊢
        exact found m rest hspells hm h (ih rest.length hlt rest rfl)

end Pattern

end ShaderDowngrade

import ShaderDowngrade.Proofs.Pattern.Language
import ShaderDowngrade.Proofs.Text.Apart

/-!
# Replacing all matches

`Pattern.Rewrites` describes a text with its matches replaced, piece by piece from the left: a
character is kept if no word of the pattern begins there, and otherwise a word gives way to its
replacement. What a replacement can make or break is an induction over the pieces.

Main statements: `Pattern.rewrites_replaceWith`, replacing all matches is such a rewriting;
`Pattern.Rewrites.occurs_of_occurs`, every occurrence in the result was there before or has been
joined from a stub and what a replacement puts behind it; `Pattern.Rewrites.not_occurs`, the pattern
itself is gone if its words are apart from the replacements; `Pattern.Rewrites.occurs_of_stub`, what
such a stub is completed to does occur.

## Why the context on the left is carried along

A word that a replacement completes begins in what was kept before it, so an induction over the
pieces alone would lose its first half. The statements about occurrences therefore begin with a
context `a` in front of both texts, and ask where an occurrence that begins in `a` ends.
-/

namespace ShaderDowngrade.Pattern

/-- The second text is the first with the words of the pattern in it replaced, from left to
right. -/
inductive Rewrites (p : Pattern) (replacement : Match → Text) : Text → Text → Prop
  | done : Rewrites p replacement [] []
  | keep {c : Char} {b b' : Text} (hc : ∀ w ∈ p.words, ¬ w <+: c :: b)
      (h : Rewrites p replacement b b') : Rewrites p replacement (c :: b) (c :: b')
  | found {m : Match} {b b' : Text} (hm : p.expr.Spells m.text m.groups)
      (h : Rewrites p replacement b b') :
      Rewrites p replacement (m.text ++ b) (replacement m ++ b')

variable {p : Pattern} {replacement : Match → Text}

theorem occursIn_iff_occurs (hp : p.expr.Plain = true) (t : Text) :
    p.occursIn t = true ↔ Text.Occurs p.words t :=
  occursIn_iff hp t

theorem occursIn_eq_false_iff (hp : p.expr.Plain = true) (t : Text) :
    p.occursIn t = false ↔ ¬ Text.Occurs p.words t := by
  rw [← Bool.not_eq_true, occursIn_iff_occurs hp]

theorem occursIn_eq_of_occurs_iff {q : Pattern} {s t : Text} (hp : p.expr.Plain = true)
    (hq : q.expr.Plain = true) (h : Text.Occurs p.words s ↔ Text.Occurs q.words t) :
    p.occursIn s = q.occursIn t := by
  rw [Bool.eq_iff_iff, occursIn_iff_occurs hp, occursIn_iff_occurs hq, h]

theorem rewrites_piecesFrom (hp : p.expr.Plain = true) (hne : [] ∉ p.words) {put : Piece → Text}
    (hkept : ∀ c, put (.kept c) = [c]) (hfound : ∀ m, put (.found m) = replacement m)
    (position skip : Nat) (t : Text) :
    Rewrites p replacement (t.drop skip) ((p.expr.piecesFrom position skip t).flatMap put) := by
  have words_of {m : Match} {position : Nat} {t : Text}
      (h : p.expr.matchAt position true t = some m) : m.text ≠ [] := fun hnil ↦
    hne ⟨m.groups, hnil ▸ (Expr.spells_of_matchAt h).1⟩
  -- the scan skips the characters of the match it has found, so the text it is at is `t.drop skip`
  induction t generalizing position skip with
  | nil =>
    cases skip with
    | succ => exact .done
    | zero =>
      cases h : p.expr.matchAt position true [] with
      | none => simpa [Expr.piecesFrom, h] using .done
      | some m => exact absurd (List.prefix_nil.1 (Expr.spells_of_matchAt h).2) (words_of h)
  | cons c cs ih =>
    cases skip with
    | succ => simpa [Expr.piecesFrom] using ih (position + 1) _
    | zero =>
      cases h : p.expr.matchAt position true (c :: cs) with
      | none =>
        simp only [Expr.piecesFrom, h, List.flatMap_cons, List.drop_zero, hkept]
        refine .keep ?_ (ih (position + 1) 0)
        rintro w ⟨g, hw⟩ hpre
        have := Expr.isSome_matchAt hp position hw hpre
        rw [h] at this
        cases this
      | some m =>
        obtain ⟨hm, hpre⟩ := Expr.spells_of_matchAt h
        obtain ⟨d, ds, hd⟩ := List.exists_cons_of_ne_nil (words_of h)
        have hcs : c :: cs = m.text ++ cs.drop ds.length := by
          obtain ⟨rest, hrest⟩ := hpre
          rw [hd, List.cons_append, List.cons.injEq] at hrest
          obtain ⟨rfl, rfl⟩ := hrest
          rw [hd, List.drop_left, List.cons_append]
        simp only [Expr.piecesFrom, h, hd, List.flatMap_cons, List.drop_zero, hfound]
        rw [hcs]
        exact .found hm (ih (position + 1) ds.length)

theorem rewrites_replaceWith (hp : p.expr.Plain = true) (hne : [] ∉ p.words)
    (replacement : Match → Text) (t : Text) :
    Rewrites p replacement t (p.replaceWith replacement t) := by
  rw [replaceWith]
  refine rewrites_piecesFrom hp hne ?_ ?_ 0 0 t
  · exact fun _ ↦ rfl
  · exact fun _ ↦ rfl

namespace Rewrites

variable {W H Y : Set Text} {s t : Text}

/-! ## What a rewriting leaves as it is -/

theorem eq_of_not_occurs (h : Rewrites p replacement s t) (hs : ¬ Text.Occurs p.words s) :
    t = s := by
  induction h with
  | done => rfl
  | @keep c b b' _ _ ih => rw [ih fun hb ↦ hs (hb.of_isInfix (List.suffix_cons c b).isInfix)]
  | @found m b b' hm _ _ => exact absurd ⟨m.text, ⟨_, hm⟩, [], b, rfl⟩ hs

theorem exists_append {d : Text} (h : Rewrites p replacement (d ++ s) t)
    (hd : Text.Outside p.words {d}) : ∃ t', t = d ++ t' ∧ Rewrites p replacement s t' := by
  -- on the part `q` of `d` that is still to come; `e` is what has been kept of it
  have key (q : Text) : ∀ e, d = e ++ q → ∀ t, Rewrites p replacement (q ++ s) t →
      ∃ t', t = q ++ t' ∧ Rewrites p replacement s t' := by
    induction q with
    | nil => exact fun _ _ t h ↦ ⟨t, rfl, h⟩
    | cons c q ih =>
      intro e he t h
      generalize hcs : c :: q ++ s = cs at h
      cases h with
      | done => cases hcs
      | @keep _ _ t _ h =>
        rw [List.cons_append, List.cons.injEq] at hcs
        obtain ⟨rfl, rfl⟩ := hcs
        obtain ⟨t', rfl, h'⟩ := ih (e ++ [c]) (by simp [he]) t h
        exact ⟨t', rfl, h'⟩
      | found hm _ =>
        exact absurd (Text.comparable_of_append_eq hcs)
          (hd ⟨_, hm⟩ (Set.mem_singleton d) he (List.cons_ne_nil c q))
  exact key d [] rfl t h

theorem append_left {d : Text} (h : Rewrites p replacement s t)
    (hd : Text.Outside p.words {d}) : Rewrites p replacement (d ++ s) (d ++ t) := by
  -- on the part `q` of `d` that is still to come, with `e` in front of it
  have key (q : Text) : ∀ e, d = e ++ q → Rewrites p replacement (q ++ s) (q ++ t) := by
    induction q with
    | nil => exact fun _ _ ↦ h
    | cons c q ih =>
      intro e he
      refine .keep (fun w hw hpre ↦ ?_) (ih (e ++ [c]) (by simp [he]))
      obtain ⟨v, hv⟩ := hpre
      exact hd hw (Set.mem_singleton d) he (List.cons_ne_nil c q)
        (Text.comparable_of_append_eq hv.symm)
  exact key d [] rfl

theorem eq_of_expr_eq_word {w v t' : Text} (hp : p.expr = .word w) (hw : w ≠ [])
    (h : Rewrites p (fun _ ↦ v) s t) (h' : Rewrites p (fun _ ↦ v) s t') : t = t' := by
  have hword {m : Match} (hm : p.expr.Spells m.text m.groups) : m.text = w :=
    text_eq_of_expr_eq_word hp hm
  have hmem : w ∈ p.words := words_of_expr_eq_word hp ▸ Set.mem_singleton w
  induction h generalizing t' with
  | done =>
    refine (h'.eq_of_not_occurs ?_).symm
    rintro ⟨x, hx, hi⟩
    rw [words_of_expr_eq_word hp, Set.mem_singleton_iff] at hx
    exact hw (hx ▸ List.infix_nil.1 hi)
  | @keep c b b' hc _ ih =>
    generalize hs : c :: b = s at h'
    cases h' with
    | done => cases hs
    | keep _ h' =>
      obtain ⟨rfl, rfl⟩ := List.cons.inj hs
      rw [ih h']
    | @found m b₂ _ hm _ => exact absurd (hword hm ▸ ⟨b₂, hs.symm⟩) (hc w hmem)
  | @found m b b' hm _ ih =>
    generalize hs : m.text ++ b = s at h'
    rw [hword hm] at hs
    cases h' with
    | done => exact absurd (List.append_eq_nil_iff.1 hs).1 hw
    | keep hc _ => exact absurd ⟨b, hs⟩ (hc w hmem)
    | found hm' h' =>
      rw [hword hm', List.append_cancel_left_eq] at hs
      rw [ih (hs ▸ h')]

theorem swaps {X Y : Set Text} (h : Rewrites p replacement s t)
    (hXY : ∀ m, p.expr.Spells m.text m.groups →
      ∃ x ∈ X, ∃ y ∈ Y, ∃ k, m.text = x ++ k ∧ replacement m = y ++ k) : Text.Swaps X Y s t := by
  induction h with
  | done => exact .refl
  | @keep c b b' _ _ ih => exact ih.append_left [c]
  | @found m b b' hm _ ih =>
    obtain ⟨x, hx, y, hy, k, hm, hr⟩ := hXY m hm
    rw [hm, hr]
    refine .head ?_ (ih.append_left (y ++ k))
    simpa using Text.Swap.mk [] (k ++ b) hx hy

/-! ## What a rewriting makes -/

/-- An occurrence that begins in the context on the left was there before, or reaches from a stub
into what was put in the place of a match behind it. -/
theorem prefix_or_reaches (h : Rewrites p replacement s t)
    (hY : ∀ m, p.expr.Spells m.text m.groups → replacement m ∈ Y) (hreach : Text.ReachesBy H W Y)
    {w : Text} (hw : w ∈ W) {a : Text} (ha : a ≠ []) (hpre : w <+: a ++ t) :
    w <+: a ++ s ∨ ∃ k ∈ H, ∃ q m b b', w = k ++ q ∧ q ≠ [] ∧ p.expr.Spells m.text m.groups ∧
      a ++ s = k ++ (m.text ++ b) ∧ Rewrites p replacement b b' ∧ q <+: replacement m ++ b' := by
  induction h generalizing a with
  | done => exact .inl hpre
  | @keep c b b' _ _ ih =>
    -- the kept character joins the context
    have := ih (a := a ++ [c]) (by simp) (by simpa using hpre)
    simpa using this
  | @found m b b' hm h _ =>
    obtain ⟨v, hv⟩ := hpre
    rw [← List.append_assoc] at hv
    -- the word begins in the context: it ends there, or reaches into the replacement
    rcases Text.position_cases (u := []) hv.symm with ⟨r, rfl, -⟩ | ⟨r, -, hu⟩ |
      ⟨k, q, -, hq, rfl, rfl, he⟩ | ⟨k, q, hq, -, hu, -⟩
    · exact .inl ⟨r ++ (m.text ++ b), by simp⟩
    · exact absurd (List.append_eq_nil_iff.1 (List.append_eq_nil_iff.1 hu.symm).1).1 ha
    · have hstub := hreach hw (hY m hm) rfl ha hq (Text.comparable_of_append_eq he.symm)
      exact .inr ⟨a, hstub, q, m, b, b', by simp, hq, hm, by simp, h, v, he.symm⟩
    · exact absurd (List.append_eq_nil_iff.1 hu.symm).1 ha

theorem prefix_or_stub (h : Rewrites p replacement s t)
    (hY : ∀ m, p.expr.Spells m.text m.groups → replacement m ∈ Y) (hreach : Text.ReachesBy H W Y)
    {w : Text} (hw : w ∈ W) {a : Text} (ha : a ≠ []) (hpre : w <+: a ++ t) :
    w <+: a ++ s ∨ ∃ k ∈ H, ∃ x ∈ p.words, k ++ x <+: a ++ s := by
  refine (h.prefix_or_reaches hY hreach hw ha hpre).imp_right ?_
  rintro ⟨k, hk, q, m, b, b', -, -, hm, hs, -, -⟩
  exact ⟨k, hk, m.text, ⟨_, hm⟩, b, by rw [hs, List.append_assoc]⟩

/-- Every occurrence in the result begins at a character that was kept. -/
theorem exists_kept_beginning (h : Rewrites p replacement s t)
    (hY : ∀ m, p.expr.Spells m.text m.groups → replacement m ∈ Y) (hout : Text.Outside W Y)
    (hne : [] ∉ W) (ht : Text.Occurs W t) : ∃ w ∈ W, ∃ c b b', c :: b <:+ s ∧
      (∀ x ∈ p.words, ¬ x <+: c :: b) ∧ Rewrites p replacement b b' ∧ w <+: c :: b' := by
  induction h with
  | done =>
    obtain ⟨w, hw, hwt⟩ := ht
    exact absurd (List.infix_nil.1 hwt ▸ hw) hne
  | @keep c b b' hc h ih =>
    obtain ⟨w, hw, hwt⟩ := ht
    rcases List.infix_cons_iff.1 hwt with hpre | hin
    · exact ⟨w, hw, c, b, b', List.suffix_refl _, hc, h, hpre⟩
    · obtain ⟨w, hw, d, r, r', hd, hrest⟩ := ih ⟨w, hw, hin⟩
      exact ⟨w, hw, d, r, r', hd.trans (List.suffix_cons c b), hrest⟩
  | @found m b b' hm _ ih =>
    -- no occurrence begins in the replacement, so this one lies behind it
    obtain ⟨w, hw, d, r, r', hd, hrest⟩ := ih (hout.occurs_of_append (hY m hm) ht)
    exact ⟨w, hw, d, r, r', hd.trans (List.suffix_append m.text b), hrest⟩

/-- Every occurrence in the result begins at a character that was kept, and from there on it was
there before, or has been joined from a stub and what was put in the place of a match behind it. -/
theorem exists_kept_of_occurs (h : Rewrites p replacement s t)
    (hY : ∀ m, p.expr.Spells m.text m.groups → replacement m ∈ Y) (hreach : Text.ReachesBy H W Y)
    (hout : Text.Outside W Y) (hne : [] ∉ W) (ht : Text.Occurs W t) :
    ∃ b, b <:+ s ∧ (∀ x ∈ p.words, ¬ x <+: b) ∧
      ((∃ w ∈ W, w <+: b) ∨ ∃ k ∈ H, ∃ x ∈ p.words, k ++ x <+: b) := by
  obtain ⟨w, hw, c, b, b', hb, hc, h', hpre⟩ := h.exists_kept_beginning hY hout hne ht
  refine ⟨c :: b, hb, hc, ?_⟩
  have hstub := h'.prefix_or_stub hY hreach hw (List.cons_ne_nil c []) hpre
  exact hstub.imp_left fun hs ↦ ⟨w, hw, hs⟩

theorem occurs_of_occurs (h : Rewrites p replacement s t)
    (hY : ∀ m, p.expr.Spells m.text m.groups → replacement m ∈ Y) (hreach : Text.ReachesBy H W Y)
    (hout : Text.Outside W Y) (hne : [] ∉ W) (ht : Text.Occurs W t) :
    Text.Occurs W s ∨ Text.Occurs (Set.image2 (· ++ ·) H p.words) s := by
  obtain ⟨b, hb, -, ⟨w, hw, hpre⟩ | ⟨k, hk, x, hx, hpre⟩⟩ :=
    h.exists_kept_of_occurs hY hreach hout hne ht
  · exact .inl ⟨w, hw, hpre.isInfix.trans hb.isInfix⟩
  · exact .inr ⟨_, Set.mem_image2_of_mem hk hx, hpre.isInfix.trans hb.isInfix⟩

/-- A word of the pattern in the result has been joined from a stub and what was put in the place of
a match behind it. -/
theorem occurs_stub_of_occurs (h : Rewrites p replacement s t)
    (hY : ∀ m, p.expr.Spells m.text m.groups → replacement m ∈ Y)
    (hreach : Text.ReachesBy H p.words Y) (hout : Text.Outside p.words Y) (hne : [] ∉ p.words)
    (ht : Text.Occurs p.words t) : Text.Occurs (Set.image2 (· ++ ·) H p.words) s := by
  obtain ⟨b, hb, hc, ⟨w, hw, hpre⟩ | ⟨k, hk, x, hx, hpre⟩⟩ :=
    h.exists_kept_of_occurs hY hreach hout hne ht
  · exact absurd hpre (hc w hw)
  · exact ⟨_, Set.mem_image2_of_mem hk hx, hpre.isInfix.trans hb.isInfix⟩

/-- **The pattern is gone** if none of its words reaches into a replacement or begins in one. -/
theorem not_occurs (h : Rewrites p replacement s t)
    (hY : ∀ m, p.expr.Spells m.text m.groups → replacement m ∈ Y)
    (hreach : Text.ReachesBy ∅ p.words Y) (hout : Text.Outside p.words Y) (hne : [] ∉ p.words) :
    ¬ Text.Occurs p.words t := by
  intro ht
  obtain ⟨w, hw, -⟩ := h.occurs_stub_of_occurs hY hreach hout hne ht
  simp at hw

/-- What occurs in a text whose matches are deleted occurred before, or has been joined over a
match: the first part of the word stood directly in front of it. -/
theorem occurs_of_deleted (h : Rewrites p (fun _ ↦ []) s t) (hne : [] ∉ W)
    (ht : Text.Occurs W t) : Text.Occurs W s ∨
      ∃ k q x, k ≠ [] ∧ q ≠ [] ∧ k ++ q ∈ W ∧ x ∈ p.words ∧ k ++ x <:+: s := by
  have hreach : Text.ReachesBy {k | k ≠ [] ∧ ∃ q ≠ [], k ++ q ∈ W} W {[]} := by
    rintro w hw x - k q rfl hk hq -
    exact ⟨hk, q, hq, hw⟩
  refine (h.occurs_of_occurs (fun _ _ ↦ Set.mem_singleton _) hreach (Text.outside_singleton_nil W)
    hne ht).imp_right ?_
  rintro ⟨_, ⟨k, ⟨hk, q, hq, hw⟩, x, hx, rfl⟩, hi⟩
  exact ⟨k, q, x, hk, hq, hw, hx, hi⟩

theorem occurs_of_apart (h : Rewrites p (fun _ ↦ []) s t) (hapart : Text.Apart W p.words)
    (hs : Text.Occurs W s) : Text.Occurs W t := by
  have hswaps : Text.Swaps p.words {[]} s t :=
    h.swaps fun m hm ↦ ⟨m.text, ⟨_, hm⟩, [], rfl, [], by simp, rfl⟩
  exact hswaps.symm.occurs_of_occurs hapart hs

/-! ## What a rewriting completes -/

/-- A stub in which no match begins is kept, and the match behind it replaced. -/
theorem append_replacement_prefix {k x v : Text} (hx : x ∈ p.words) (hxne : x ≠ [])
    (hfree : ∀ q r, k = q ++ r → r ≠ [] → ∀ z ∈ p.words, ¬ Text.Comparable (r ++ x) z)
    (h : Rewrites p replacement (k ++ x ++ v) t) :
    ∃ m, p.expr.Spells m.text m.groups ∧ k ++ replacement m <+: t := by
  induction k generalizing t with
  | nil =>
    generalize hs : [] ++ x ++ v = s at h
    cases h with
    | done => exact absurd (List.append_eq_nil_iff.1 hs).1 hxne
    | keep hc _ => exact absurd ⟨v, hs⟩ (hc x hx)
    | @found m b b' hm _ => exact ⟨m, hm, b', rfl⟩
  | cons c k ih =>
    generalize hs : c :: k ++ x ++ v = s at h
    cases h with
    | done => cases hs
    | @keep _ b b' _ h =>
      rw [List.cons_append, List.cons_append, List.cons.injEq] at hs
      obtain ⟨rfl, rfl⟩ := hs
      obtain ⟨m, hm, hpre⟩ := ih (fun q r hk ↦ hfree (c :: q) r (by rw [hk, List.cons_append])) h
      exact ⟨m, hm, List.prefix_cons_iff.2 (.inr ⟨_, rfl, hpre⟩)⟩
    | found hm _ =>
      exact absurd (Text.comparable_of_append_eq hs)
        (hfree [] (c :: k) rfl (List.cons_ne_nil c k) _ ⟨_, hm⟩)

/-- If a replacement completes every stub to a word, then a stub in front of a match makes the word
occur in the result. -/
theorem occurs_of_stub (h : Rewrites p replacement s t) (hne : [] ∉ p.words)
    (hfree : ∀ k ∈ H, ∀ x ∈ p.words, ∀ q r, k = q ++ r → r ≠ [] →
      ∀ z ∈ p.words, ¬ Text.Comparable (r ++ x) z)
    (hout : Text.Outside (Set.image2 (· ++ ·) H p.words) p.words)
    (hjoin : ∀ k ∈ H, ∀ m, p.expr.Spells m.text m.groups → ∃ w ∈ W, w <+: k ++ replacement m)
    (hs : Text.Occurs (Set.image2 (· ++ ·) H p.words) s) : Text.Occurs W t := by
  have hxne {x : Text} (hx : x ∈ p.words) : x ≠ [] := fun hnil ↦ hne (hnil ▸ hx)
  induction h with
  | done =>
    obtain ⟨_, ⟨k, -, x, hx, rfl⟩, hin⟩ := hs
    exact absurd (List.append_eq_nil_iff.1 (List.infix_nil.1 hin)).2 (hxne hx)
  | @keep c b b' hc h ih =>
    obtain ⟨_, ⟨k, hk, x, hx, rfl⟩, hin⟩ := hs
    rcases List.infix_cons_iff.1 hin with ⟨v, hv⟩ | hin
    · have h' : Rewrites p replacement (k ++ x ++ v) (c :: b') := hv ▸ h.keep hc
      obtain ⟨m, hm, hpre⟩ := append_replacement_prefix hx (hxne hx) (hfree k hk x hx) h'
      obtain ⟨w, hw, hwpre⟩ := hjoin k hk m hm
      exact ⟨w, hw, (hwpre.trans hpre).isInfix⟩
    · exact (ih ⟨_, ⟨k, hk, x, hx, rfl⟩, hin⟩).of_isInfix (List.suffix_cons c b').isInfix
  | @found m b b' hm _ ih =>
    -- no stub with its match begins in another match, so this one lies behind it
    have hb := hout.occurs_of_append ⟨_, hm⟩ hs
    exact (ih hb).of_isInfix (List.suffix_append (replacement m) b').isInfix

end Rewrites

end ShaderDowngrade.Pattern

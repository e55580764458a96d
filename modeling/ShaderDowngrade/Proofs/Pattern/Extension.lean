import ShaderDowngrade.Proofs.Pattern.Rewriting

/-!
# Extending a word

A word may be replaced by a longer one that begins with it. Then the word is still there, in the
same places, and replacing it again extends it again: an extension is put directly behind the word,
in front of the extensions that it got before.

For this no new occurrence must come about. So the word must not end in a part that it begins with,
and must not begin anywhere in an extension.

Main statement: `Pattern.replaceWith_extend`, extending a word twice.
-/

namespace ShaderDowngrade

namespace Text

theorem outside_of_notMem {c : Char} {w y : Text} (h : c ∉ y) : Outside {c :: w} {y} := by
  rintro _ rfl _ rfl p q rfl hq hcomparable
  obtain ⟨d, q, rfl⟩ := List.exists_cons_of_ne_nil hq
  obtain ⟨rfl, -⟩ := comparable_cons_cons.1 hcomparable
  simp at h

/-- What does not reach into a word does not reach into its extensions either: it would be shorter
than the word. -/
theorem ReachesBy.extend {w : Text} (h : ReachesBy ∅ {w} {w}) (y : Text) :
    ReachesBy ∅ {w} {w ++ y} := by
  rintro _ rfl _ rfl p q hpq hp hq hcomparable
  exact h rfl rfl hpq hp hq (hcomparable.of_isPrefix (List.prefix_append _ y))

end Text

namespace Pattern

variable {p : Pattern} {w x y s t : Text}

namespace Rewrites

theorem eq_of_same (hp : p.expr = .word w) (h : p.Rewrites (fun _ ↦ w) s t) : t = s := by
  induction h with
  | done => rfl
  | keep _ _ ih => rw [ih]
  | @found m b b' hm _ ih => rw [ih, show m.text = w from text_eq_of_expr_eq_word hp hm]

theorem exists_replacement {replacement : Match → Text} (h : p.Rewrites replacement s t)
    (hs : Text.Occurs p.words s) (hne : [] ∉ p.words) :
    ∃ m, p.expr.Spells m.text m.groups ∧ replacement m <:+: t := by
  induction h with
  | done =>
    obtain ⟨w, hw, hi⟩ := hs
    exact absurd (List.infix_nil.1 hi ▸ hw) hne
  | @keep c b b' hc _ ih =>
    obtain ⟨w, hw, hi⟩ := hs
    rcases List.infix_cons_iff.1 hi with hpre | hin
    · exact absurd hpre (hc w hw)
    · obtain ⟨m, hm, hreplacement⟩ := ih ⟨w, hw, hin⟩
      exact ⟨m, hm, List.infix_cons hreplacement⟩
  | @found m b b' hm _ _ => exact ⟨m, hm, (List.prefix_append _ b').isInfix⟩

/-- An extended word can be extended again. The places where it is extended are the same, since the
first extensions make no new ones. -/
theorem exists_extend (hp : p.expr = .word w) (hborder : Text.ReachesBy ∅ {w} {w})
    (hout : Text.Outside {w} {y}) (h : p.Rewrites (fun _ ↦ w ++ y) s t) :
    ∃ t', p.Rewrites (fun _ ↦ w ++ (x ++ y)) s t' ∧ p.Rewrites (fun _ ↦ w ++ x) t t' := by
  have hwords : p.words = {w} := words_of_expr_eq_word hp
  induction h with
  | done => exact ⟨[], .done, .done⟩
  | @keep c b b' hc h ih =>
    obtain ⟨t', hboth, hsecond⟩ := ih
    refine ⟨c :: t', .keep hc hboth, .keep (fun z hz hpre ↦ ?_) hsecond⟩
    rw [hwords] at hz
    rcases h.prefix_or_stub (fun _ _ ↦ Set.mem_singleton _) (hborder.extend y) hz
      (List.cons_ne_nil c []) hpre with hs | ⟨_, hk, -⟩
    · exact hc z (hwords ▸ hz) hs
    · exact hk.elim
  | @found m b b' hm _ ih =>
    obtain ⟨t', hboth, hsecond⟩ := ih
    have hm' : m.text = w := text_eq_of_expr_eq_word hp hm
    refine ⟨w ++ (x ++ y) ++ t', .found hm hboth, ?_⟩
    have hfound : p.Rewrites (fun _ ↦ w ++ x) (m.text ++ (y ++ b')) (w ++ x ++ (y ++ t')) :=
      .found hm (hsecond.append_left (hwords ▸ hout))
    rw [hm'] at hfound
    simpa using hfound

end Rewrites

/-- **Extending a word twice** comes to extending it once, by the later extension and then the
earlier one. -/
theorem replaceWith_extend (hp : p.expr = .word w) (hw : w ≠ [])
    (hborder : Text.ReachesBy ∅ {w} {w}) (hout : Text.Outside {w} {y}) (s : Text) :
    p.replaceWith (fun _ ↦ w ++ x) (p.replaceWith (fun _ ↦ w ++ y) s) =
      p.replaceWith (fun _ ↦ w ++ (x ++ y)) s := by
  have hrewrites (v : Text) (t : Text) :
      p.Rewrites (fun _ ↦ v) t (p.replaceWith (fun _ ↦ v) t) := by
    refine rewrites_replaceWith (hp ▸ Expr.plain_word w) ?_ _ t
    rw [words_of_expr_eq_word hp]
    exact fun hnil ↦ hw hnil.symm
  obtain ⟨t', hboth, hsecond⟩ := (hrewrites (w ++ y) s).exists_extend hp hborder hout
  rw [(hrewrites (w ++ x) _).eq_of_expr_eq_word hp hw hsecond,
    (hrewrites (w ++ (x ++ y)) s).eq_of_expr_eq_word hp hw hboth]

end Pattern

end ShaderDowngrade

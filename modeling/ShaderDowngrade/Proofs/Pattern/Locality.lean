import ShaderDowngrade.Proofs.Pattern.Cut
import ShaderDowngrade.Proofs.Pattern.Scanning
import ShaderDowngrade.Proofs.Pattern.Shape

/-!
# What stands behind a match

A match is found by trying one way through an expression after the other, and a way may well look
at text behind the match before it is given up. It is shown here that this makes no difference: if
no word of the expression goes on into the text behind, then the match is the one that would be
found without that text.

A piece into which no word reaches, and in which none begins, therefore separates what stands on
its two sides: a scan of the whole finds what scans of the two sides find, with the same
preferences, and such pieces may be exchanged for one another.

Main statements: `Expr.matchAt_append_of_within`, matching is local;
`Pattern.separates_of_reachesBy`, which pieces separate; `Pattern.allMatches_eq_of_swaps`,
exchanging such pieces conserves the matches.

## Why a cut is not enough

A text may be cut behind a character that no word goes beyond, but such a character need not stand
at the beginning of a piece: a name may go on with the first letters of the keyword that takes the
place of another, and is told from it only by the letters behind.
-/

namespace ShaderDowngrade

namespace Expr

/-- What is answered with the text `y` behind the place `n`: the same as without it, or a place
behind `n`. -/
def Echoes (y : Text) (n : ℕ) (answer' answer : Option Cursor) : Prop :=
  answer' = answer.map (Cursor.before y) ∨ ∃ r, answer' = some r ∧ n < r.position

/-- From the place `k` on, the first continuation echoes the second one up to the place `n`, and
leads from behind `n` to no place before it. -/
structure Follows (y : Text) (n k : ℕ) (next' next : Cursor → Option Cursor) : Prop where
  /-- Up to `n`, the answers are echoed. -/
  inside : ∀ t, t.stop = n → k ≤ t.position → Echoes y n (next' (t.before y)) (next t)
  /-- Behind `n`, the answers are places behind `n`. -/
  behind : ∀ t r, n < t.position → next' t = some r → n < r.position

/-- The step does not look behind the end of its text, other than to go there. -/
def Local (round : Step) : Prop := ∀ ⦃y n s next' next⦄, s.stop = n →
  Follows y n s.position next' next → Echoes y n (round (s.before y) next') (round s next)

variable {y : Text} {n k l : ℕ} {next' next : Cursor → Option Cursor} {s : Cursor} {round : Step}

theorem Echoes.orElse {a' a : Option Cursor} {b' b : Unit → Option Cursor}
    (h : Echoes y n a' a) (h' : Echoes y n (b' ()) (b ())) :
    Echoes y n (a'.orElse b') (a.orElse b) := by
  rcases h with rfl | ⟨r, rfl, hr⟩
  · cases a with
    | none => exact h'
    | some r => exact .inl rfl
  · exact .inr ⟨r, rfl, hr⟩

theorem Follows.mono (h : Follows y n k next' next) (hkl : k ≤ l) : Follows y n l next' next :=
  ⟨fun t ht hl ↦ h.inside t ht (hkl.trans hl), h.behind⟩

theorem Follows.behind_of_ahead (h : Follows y n k next' next) {t r : Cursor}
    (ht : n < t.position) (hr : ∃ u, Ahead t u ∧ next' u = some r) : n < r.position := by
  obtain ⟨u, ⟨j, -, hu, -⟩, hr⟩ := hr
  exact h.behind u r (hu ▸ ht.trans_le (Nat.le_add_right _ j)) hr

/-! ## Repetitions -/

theorem repeatExactly_local (hround : Local round) (hforward : Forward round) (m : ℕ)
    (hs : s.stop = n) (hnext : Follows y n s.position next' next) :
    Echoes y n (repeatExactly round next' m (s.before y)) (repeatExactly round next m s) := by
  induction m generalizing s with
  | zero => exact hnext.inside s hs le_rfl
  | succ m ih =>
    refine hround hs ⟨fun t ht hst ↦ ih ht (hnext.mono hst), fun t r ht hr ↦ ?_⟩
    exact hnext.behind_of_ahead ht (repeatExactly_forward hforward m hr)

/-- With text behind there may be more rounds, but those that are left over lead behind it. -/
theorem repeatMore_local (hround : Local round) (hforward : Forward round) (greedy : Bool)
    {m m' : ℕ} (hm : m = m' ∨ s.rest.length < m ∧ s.rest.length < m') (hs : s.stop = n)
    (hnext : Follows y n s.position next' next) :
    Echoes y n (repeatMore round greedy next' m' (s.before y))
      (repeatMore round greedy next m s) := by
  induction m generalizing m' s with
  | zero =>
    obtain rfl : 0 = m' := hm.resolve_right fun h ↦ Nat.not_lt_zero _ h.1
    exact hnext.inside s hs le_rfl
  | succ m ih =>
    obtain ⟨m', rfl⟩ : ∃ j, m' = j + 1 := ⟨m' - 1, by omega⟩
    have hstay := hnext.inside s hs le_rfl
    have hagain : Echoes y n
        (round (s.before y) fun t ↦ if t.position = (s.before y).position then next' t
          else repeatMore round greedy next' m' t)
        (round s fun t ↦ if t.position = s.position then next t
          else repeatMore round greedy next m t) := by
      refine hround hs ⟨fun t ht hst ↦ ?_, fun t r ht hr ↦ ?_⟩
      · change Echoes y n (if t.position = s.position then next' (t.before y)
          else repeatMore round greedy next' m' (t.before y)) _
        by_cases hround : t.position = s.position
        · rw [if_pos hround, if_pos hround]
          exact hnext.inside t ht hst
        · -- the round has consumed something, so fewer rounds are enough
          rw [if_neg hround, if_neg hround]
          refine ih ?_ ht (hnext.mono hst)
          rw [Cursor.stop] at hs ht
          omega
      · split at hr
        · exact hnext.behind t r ht hr
        · exact hnext.behind_of_ahead ht (repeatMore_forward hforward greedy m' hr)
    cases greedy
    · exact hstay.orElse hagain
    · exact hagain.orElse hstay

/-! ## Matching -/

theorem local_run {e : Expr} (he : e.Plain = true) : Local e.run := by
  induction e with
  | empty => exact fun y n s next' next hs hnext ↦ hnext.inside s hs le_rfl
  | one test =>
    rintro y n ⟨position, rest, groups⟩ next' next hs hnext
    rw [run_one, run_one, Cursor.before]
    cases rest with
    | nil =>
      cases y with
      | nil => exact .inl rfl
      | cons c y =>
        dsimp only [List.nil_append]
        split
        · -- the character stands behind the text
          cases hr : next' ⟨position + 1, y, groups⟩ with
          | none => exact .inl rfl
          | some r => exact .inr ⟨r, rfl, hnext.behind _ r (hs ▸ Nat.lt_succ_self _) hr⟩
        · exact .inl rfl
    | cons d rest =>
      dsimp only [List.cons_append]
      split
      · refine hnext.inside ⟨position + 1, rest, groups⟩ ?_ (Nat.le_succ _)
        rw [← hs, Cursor.stop, Cursor.stop, List.length_cons, Nat.add_right_comm, ← Nat.add_assoc]
      · exact .inl rfl
  | start => cases he
  | finish => cases he
  | ahead wanted body => cases he
  | group index body ih =>
    intro y n s next' next hs hnext
    refine ih he hs ⟨fun t ht hst ↦ ?_, fun t r ht hr ↦
      hnext.behind ⟨t.position, t.rest, (index, _) :: t.groups⟩ r ht hr⟩
    dsimp only [Cursor.before]
    rw [Cursor.take_append_of_stop_eq (ht.trans hs.symm)]
    exact hnext.inside ⟨t.position, t.rest, (index, _) :: t.groups⟩ ht hst
  | seq first second ih ih' =>
    intro y n s next' next hs hnext
    obtain ⟨he, he'⟩ := Bool.and_eq_true_iff.1 he
    refine ih he hs ⟨fun t ht hst ↦ ih' he' ht (hnext.mono hst), fun t r ht hr ↦ ?_⟩
    exact hnext.behind_of_ahead ht (forward_run second _ _ _ hr)
  | alt first second ih ih' =>
    intro y n s next' next hs hnext
    obtain ⟨he, he'⟩ := Bool.and_eq_true_iff.1 he
    exact (ih he hs hnext).orElse (ih' he' hs hnext)
  | rep least most greedy body ih =>
    intro y n s next' next hs hnext
    have hbody : Local body.run := by
      cases body with
      | one test => exact ih rfl
      | _ => cases he
    have hforward := forward_run body
    refine repeatExactly_local hbody hforward least hs ⟨fun t ht hst ↦ ?_, fun t r ht hr ↦ ?_⟩
    · refine repeatMore_local hbody hforward greedy ?_ ht (hnext.mono hst)
      cases most with
      | none =>
        rw [roundsLeft, roundsLeft, Cursor.before, List.length_append]
        omega
      | some m => exact .inl rfl
    · exact hnext.behind_of_ahead ht (repeatMore_forward hforward greedy _ hr)

/-- **Matching is local.** If no word goes on into the text behind, then the match is the one that
is found without that text. -/
theorem matchAt_append_of_within {e : Expr} (he : e.Plain = true) {rest y : Text}
    (h : ∀ w ∈ e.language, w <+: rest ++ y → w.length ≤ rest.length) :
    e.matchAt 0 true (rest ++ y) = e.matchAt 0 true rest := by
  have hsome : Follows y rest.length 0 some some :=
    ⟨fun t _ _ ↦ .inl rfl, fun t r ht hr ↦ Option.some.inj hr ▸ ht⟩
  have hrun (rest : Text) : e.matchAt 0 true rest =
      (e.run ⟨0, rest, []⟩ some).map fun t ↦ ⟨rest.take t.position, t.groups⟩ := rfl
  have hstart : (⟨0, rest, []⟩ : Cursor).stop = rest.length := Nat.zero_add _
  rw [hrun, hrun]
  rcases local_run he hstart hsome with heq | ⟨r, hr, hbehind⟩
  · rw [Cursor.before] at heq
    rw [heq, Option.map_map]
    refine Option.map_congr fun t ht ↦ ?_
    obtain ⟨u, ⟨j, hj, hu, -⟩, hut⟩ := forward_run e _ _ _ ht
    obtain rfl := Option.some.inj hut
    have hposition : u.position ≤ rest.length := by
      dsimp only at hj hu
      omega
    rw [Function.comp_apply, Cursor.before]
    dsimp only
    rw [List.take_append_of_le_length hposition]
  · -- the place where the match ends is behind a word
    rw [Cursor.before] at hr
    obtain ⟨w, g, rest', hw, hrest, hpast⟩ := sound_run e _ _ _ hr
    obtain rfl := Option.some.inj hpast
    have hlength := h w ⟨g, hw⟩ ⟨rest', hrest.symm⟩
    have hposition : (past ⟨0, rest ++ y, []⟩ w g rest').position = w.length :=
      Nat.zero_add _
    exact absurd (hbehind.trans_eq hposition) (Nat.not_lt.2 hlength)

end Expr

namespace Pattern

variable {p : Pattern} {a b s t z : Text} {X Y : Set Text}

/-- A scan keeps the piece and finds on its two sides what it would find there alone. -/
def Separates (p : Pattern) (z : Text) : Prop :=
  ∀ a b, p.pieces (a ++ z ++ b) = p.pieces a ++ (z.map .kept ++ p.pieces b)

/-- **A piece separates** what stands on its two sides if no word of the pattern reaches into it or
begins in it. -/
theorem separates_of_reachesBy (hp : p.expr.Plain = true) (hne : [] ∉ p.words)
    (hreach : Text.ReachesBy ∅ p.words {z}) (hout : Text.Outside p.words {z}) :
    p.Separates z := by
  intro a b
  rw [List.append_assoc]
  -- a word that begins in front of the piece ends there
  have hwithin {a : Text} (ha : a ≠ []) : ∀ w ∈ p.words, w <+: a ++ (z ++ b) →
      w.length ≤ a.length := by
    rintro w hw ⟨v, hv⟩
    rcases List.append_eq_append_iff.1 hv with ⟨r, rfl, -⟩ | ⟨q, rfl, hq⟩
    · rw [List.length_append]
      exact Nat.le_add_right _ _
    · by_cases hnil : q = []
      · rw [hnil, List.append_nil]
      · exact (hreach hw rfl rfl ha hnil (Text.comparable_of_append_eq hq.symm)).elim
  induction a using scan_induction hne with
  | nil => rw [pieces_nil hne, List.nil_append, List.nil_append, keeps_of_outside hp hout]
  | kept c a hnone ih =>
    have hbehind := Expr.matchAt_append_of_within hp (hwithin (List.cons_ne_nil c a))
    rw [hnone, List.cons_append] at hbehind
    rw [pieces_cons_of_eq_none hp hnone, List.cons_append, pieces_cons_of_eq_none hp hbehind, ih,
      List.cons_append]
  | found m a _ hm hsome ih =>
    have hbehind := Expr.matchAt_append_of_within hp
      (hwithin (List.append_ne_nil_of_left_ne_nil hm a))
    rw [hsome, List.append_assoc] at hbehind
    rw [pieces_append_of_eq_some hp hm hsome, List.append_assoc,
      pieces_append_of_eq_some hp hm hbehind, ih, List.cons_append]

theorem separates_of_apart (hp : p.expr.Plain = true) (hne : [] ∉ p.words) {ss : List Shape}
    (h : Shape.apart p.shapes ss = true) (hz : z ∈ Shape.words ss) : p.Separates z := by
  have hsingle : {z} ⊆ Shape.words ss := Set.singleton_subset_iff.2 hz
  exact separates_of_reachesBy hp hne ((Shape.reachesBy_words h).mono p.words_subset hsingle)
    ((Shape.outside_words (Bool.and_eq_true_iff.1 h).2).mono p.words_subset hsingle)

theorem Separates.allMatches_eq (h : p.Separates z) (a b : Text) :
    p.allMatches (a ++ z ++ b) = p.allMatches a ++ p.allMatches b := by
  have hkept : (z.map Piece.kept).filterMap Piece.match? = [] := by
    rw [List.filterMap_map]
    exact List.filterMap_eq_nil_iff.2 fun _ _ ↦ rfl
  rw [allMatches, h, List.filterMap_append, List.filterMap_append, hkept, List.nil_append,
    allMatches, allMatches]

theorem Separates.replaceWith_eq (h : p.Separates z) (replacement : Match → Text) (a b : Text) :
    p.replaceWith replacement (a ++ z ++ b) =
      p.replaceWith replacement a ++ z ++ p.replaceWith replacement b := by
  rw [replaceWith, h, List.flatMap_append, List.flatMap_append, List.flatMap_map,
    ← List.append_assoc]
  exact congrArg (_ ++ · ++ _) (List.flatMap_singleton' z)

/-- **What exchanges conserve.** The matches of a text stay the same when pieces that separate give
way to others that do. -/
theorem allMatches_eq_of_swaps (hX : ∀ x ∈ X, p.Separates x) (hY : ∀ y ∈ Y, p.Separates y)
    (h : Text.Swaps X Y s t) : p.allMatches t = p.allMatches s := by
  induction h with
  | refl => rfl
  | tail _ hstep ih =>
    cases hstep with
    | mk a b hx hy => rw [(hY _ hy).allMatches_eq, ← ih, (hX _ hx).allMatches_eq]

end Pattern

end ShaderDowngrade

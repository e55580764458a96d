import ShaderDowngrade.Proofs.Pattern.Behind
import ShaderDowngrade.Proofs.Pattern.Rewriting

/-!
# Cutting a text behind a character

If an expression does not admit a character except in the last place of a word, then no match goes
on beyond that character: what is found up to it does not depend on what comes behind it, and behind
it the scan begins afresh. So all matches of the pattern can be counted, and replaced, on both sides
of the character separately.

Main statements: `Pattern.cuts_of_stops`, the scan of a text that is cut in two;
`Pattern.Rewrites.getLast?_eq_some`, the character is still the last one after all matches have been
replaced, if a replacement ends in it whenever its match does.

## Why the cut is on the left side

The character belongs to the part on its left, since a match may end in it. A part that ends in the
character is never cut inside a match, and the part on the right may be any text at all.
-/

namespace ShaderDowngrade

namespace Cursor

/-- The same place, with more characters behind the text. -/
def before (y : Text) (s : Cursor) : Cursor := { s with rest := s.rest ++ y }

/-- The place where the text ends. -/
def stop (s : Cursor) : ℕ := s.position + s.rest.length

theorem take_append_of_stop_eq {s t : Cursor} (h : t.stop = s.stop) (y : Text) :
    (s.rest ++ y).take (t.position - s.position) = s.rest.take (t.position - s.position) := by
  refine List.take_append_of_le_length ?_
  rw [stop, stop] at h
  omega

end Cursor

namespace Expr

/-- No word of the expression goes on behind the character; with `last` unset, no word has it at
all. Anchors and lookahead are left out, and so are repetitions of anything but single
characters. -/
def Stops (c : Char) : (last : Bool) → Expr → Bool
  | _, .empty => true
  | last, .one test => last || !test.admits c
  | _, .start | _, .finish | _, .ahead .. => false
  | last, .group _ body => body.Stops c last
  | last, .seq first second =>
    first.Stops c false && second.Stops c last ||
      last && first.Stops c true && decide (second = .empty)
  | last, .alt first second => first.Stops c last && second.Stops c last
  | _, .rep _ none _ (.one test) => !test.admits c
  | _, .rep .. => false

/-- The two continuations agree at all places of the text that `s` stands in: in front of the
character and, with `last` set, behind it as well. -/
def Agree (c : Char) (y : Text) (last : Bool) (s : Cursor)
    (next next' : Cursor → Option Cursor) : Prop :=
  ∀ t, t.stop = s.stop → t.rest.getLast? = some c ∨ last = true ∧ t.rest = [] →
    next' (t.before y) = (next t).map (Cursor.before y)

variable {c : Char} {y : Text} {last : Bool} {s t : Cursor} {next next' : Cursor → Option Cursor}
  {test : CharTest}

theorem Agree.of_stop_eq (h : Agree c y last s next next') (hstop : t.stop = s.stop) :
    Agree c y last t next next' :=
  fun u hu ↦ h u (hu.trans hstop)

theorem Agree.of_last (h : Agree c y last s next next') : Agree c y false s next next' :=
  fun t hstop ht ↦ h t hstop (.inl (ht.resolve_right fun hlast ↦ Bool.false_ne_true hlast.1))

theorem run_one_before (htest : test.admits c = true → last = true)
    (hs : s.rest.getLast? = some c) (hnext : Agree c y last s next next') :
    (one test).run (s.before y) next' = ((one test).run s next).map (Cursor.before y) := by
  obtain ⟨position, rest, groups⟩ := s
  rw [run_one, run_one, Cursor.before]
  cases rest with
  | nil => cases hs
  | cons d rest =>
    dsimp only [List.cons_append]
    split
    · rename_i hd
      refine hnext ⟨position + 1, rest, groups⟩ ?_ ?_
      · rw [Cursor.stop, Cursor.stop, List.length_cons, Nat.add_right_comm, ← Nat.add_assoc]
      · by_cases hne : rest = []
        · subst hne
          obtain rfl : d = c := Option.some.inj hs
          exact .inr ⟨htest hd, rfl⟩
        · rw [List.getLast?_cons_of_ne_nil hne] at hs
          exact .inl hs
    · rfl

theorem repeatExactly_before (htest : test.admits c = false) (n : ℕ)
    (hs : s.rest.getLast? = some c) (hnext : Agree c y false s next next') :
    repeatExactly (one test).run next' n (s.before y) =
      (repeatExactly (one test).run next n s).map (Cursor.before y) := by
  induction n generalizing s with
  | zero => exact hnext s rfl (.inl hs)
  | succ n ih =>
    have hnever : test.admits c = true → false = true := by simp [htest]
    refine run_one_before hnever hs fun t hstop ht ↦ ?_
    exact ih (ht.resolve_right fun hlast ↦ Bool.false_ne_true hlast.1) (hnext.of_stop_eq hstop)

/-- The rounds end at the character at the latest, so there are enough of them for either text. -/
theorem repeatMore_before (greedy : Bool) (htest : test.admits c = false) {r : Text} {n n' : ℕ}
    (hn : r.length < n) (hn' : r.length < n') (hs : s.rest = r ++ [c])
    (hnext : Agree c y false s next next') :
    repeatMore (one test).run greedy next' n' (s.before y) =
      (repeatMore (one test).run greedy next n s).map (Cursor.before y) := by
  induction r generalizing s n n' with
  | nil =>
    obtain ⟨n, rfl⟩ := Nat.exists_eq_succ_of_ne_zero (Nat.ne_zero_of_lt hn)
    obtain ⟨n', rfl⟩ := Nat.exists_eq_succ_of_ne_zero (Nat.ne_zero_of_lt hn')
    have hstay := hnext s rfl (.inl (by rw [hs]; rfl))
    cases greedy <;> simp [repeatMore, Cursor.before, hs, htest, ← hstay]
  | cons d r ih =>
    obtain ⟨n, rfl⟩ := Nat.exists_eq_succ_of_ne_zero (Nat.ne_zero_of_lt hn)
    obtain ⟨n', rfl⟩ := Nat.exists_eq_succ_of_ne_zero (Nat.ne_zero_of_lt hn')
    have hlast : s.rest.getLast? = some c := by rw [hs]; exact List.getLast?_concat
    have hstay := hnext s rfl (.inl hlast)
    -- one more round takes `d`, and what follows is shorter
    have hagain : ((one test).run (s.before y) fun t ↦
          if t.position = (s.before y).position then next' t
          else repeatMore (one test).run greedy next' n' t) =
        ((one test).run s fun t ↦ if t.position = s.position then next t
          else repeatMore (one test).run greedy next n t).map (Cursor.before y) := by
      obtain ⟨position, rest, groups⟩ := s
      obtain rfl : rest = d :: r ++ [c] := hs
      rw [run_one, run_one, Cursor.before]
      dsimp only [List.cons_append]
      split
      · rw [if_neg (Nat.succ_ne_self position), if_neg (Nat.succ_ne_self position)]
        refine ih (s := ⟨position + 1, r ++ [c], groups⟩) (Nat.lt_of_succ_lt_succ hn)
          (Nat.lt_of_succ_lt_succ hn') rfl (hnext.of_stop_eq ?_)
        simp only [Cursor.stop, List.length_append, List.length_cons]
        omega
      · rfl
    cases greedy <;>
      simp only [repeatMore, Bool.false_eq_true, if_true, if_false, hagain, hstay, map_orElse]

theorem run_before {e : Expr} (he : e.Stops c last = true) (hs : s.rest.getLast? = some c)
    (hnext : Agree c y last s next next') :
    e.run (s.before y) next' = (e.run s next).map (Cursor.before y) := by
  induction e generalizing last s next next' with
  | empty => exact hnext s rfl (.inl hs)
  | one test =>
    rw [Stops, Bool.or_eq_true, Bool.not_eq_true'] at he
    refine run_one_before (fun htest ↦ he.resolve_right ?_) hs hnext
    rw [htest]
    exact Bool.noConfusion
  | start => cases he
  | finish => cases he
  | ahead wanted body => cases he
  | group index body ih =>
    refine ih he hs fun t hstop ht ↦ ?_
    dsimp only [Cursor.before]
    rw [Cursor.take_append_of_stop_eq hstop]
    exact hnext ⟨t.position, t.rest, (index, _) :: t.groups⟩ hstop ht
  | seq first second ih ih' =>
    rw [Stops, Bool.or_eq_true, Bool.and_eq_true, Bool.and_eq_true, Bool.and_eq_true,
      decide_eq_true_eq] at he
    rcases he with ⟨he, he'⟩ | ⟨⟨rfl, he⟩, rfl⟩
    · refine ih he hs fun t hstop ht ↦ ih' he' ?_ (hnext.of_stop_eq hstop)
      exact ht.resolve_right fun hlast ↦ Bool.false_ne_true hlast.1
    · exact ih he hs hnext
  | alt first second ih ih' =>
    obtain ⟨he, he'⟩ := Bool.and_eq_true_iff.1 he
    rw [run_alt, run_alt, map_orElse, ih he hs hnext, ih' he' hs hnext]
  | rep least most greedy body _ =>
    cases most with
    | some m => cases he
    | none =>
      cases body with
      | one test =>
        have htest : test.admits c = false := by simpa [Stops] using he
        refine repeatExactly_before htest least hs fun t hstop ht ↦ ?_
        have hlast := ht.resolve_right fun hlast ↦ Bool.false_ne_true hlast.1
        obtain ⟨r, hr⟩ := List.getLast?_eq_some_iff.1 hlast
        refine repeatMore_before greedy htest ?_ ?_ hr (hnext.of_last.of_stop_eq hstop)
        · rw [roundsLeft, hr, List.length_append]
          omega
        · rw [roundsLeft, Cursor.before, hr, List.length_append, List.length_append]
          omega
      | _ => cases he

theorem matchAt_append {e : Expr} (he : e.Stops c true = true) (position : ℕ) (mayBeEmpty : Bool)
    {rest : Text} (hrest : rest.getLast? = some c) (y : Text) :
    e.matchAt position mayBeEmpty (rest ++ y) = e.matchAt position mayBeEmpty rest := by
  have hagree : Agree c y true ⟨position, rest, []⟩
      (fun t ↦ if mayBeEmpty || t.position != position then some t else none)
      (fun t ↦ if mayBeEmpty || t.position != position then some t else none) := by
    intro t _ _
    dsimp only [Cursor.before]
    split <;> rfl
  have hrun := run_before he hrest hagree
  rw [Cursor.before] at hrun
  rw [matchAt, matchAt, hrun, Option.map_map]
  refine Option.map_congr fun t ht ↦ ?_
  obtain ⟨u, ⟨k, hk, hposition, -⟩, hu⟩ := forward_run e _ _ _ ht
  obtain ⟨-, rfl⟩ : _ ∧ u = t := by simpa using hu
  have htake : (rest ++ y).take (u.position - position) = rest.take (u.position - position) := by
    refine List.take_append_of_le_length ?_
    dsimp only at hk hposition
    omega
  rw [Function.comp_apply, Cursor.before]
  dsimp only
  rw [htake]

/-- Behind the character the scan begins afresh. -/
theorem piecesFrom_append {e : Expr} (he : e.Stops c true = true) (hplain : e.Plain = true)
    (hne : [] ∉ e.language) {a : Text} (ha : a = [] ∨ a.getLast? = some c) (b : Text)
    {position skip : ℕ} (hskip : skip ≤ a.length) :
    e.piecesFrom position skip (a ++ b) = e.piecesFrom position skip a ++ e.piecesFrom 0 0 b := by
  have hword {position : ℕ} {rest : Text} {m : Match}
      (h : e.matchAt position true rest = some m) : m.text ≠ [] ∧ m.text <+: rest := by
    obtain ⟨hm, hpre⟩ := spells_of_matchAt h
    exact ⟨fun hnil ↦ hne ⟨_, hnil ▸ hm⟩, hpre⟩
  induction a generalizing position skip with
  | nil =>
    obtain rfl : skip = 0 := Nat.le_zero.1 hskip
    have hend : e.matchAt position true [] = none := by
      rw [Option.eq_none_iff_forall_ne_some]
      exact fun m hm ↦ (hword hm).1 (List.prefix_nil.1 (hword hm).2)
    have hafresh := piecesFrom_shift hplain position 0 0 b
    rw [Nat.zero_add] at hafresh
    rw [List.nil_append, hafresh, piecesFrom, hend]
    rfl
  | cons d a ih =>
    have hlast : (d :: a).getLast? = some c := ha.resolve_left (List.cons_ne_nil d a)
    have ha' : a = [] ∨ a.getLast? = some c := by
      by_cases hnil : a = []
      · exact .inl hnil
      · rw [List.getLast?_cons_of_ne_nil hnil] at hlast
        exact .inr hlast
    rw [List.cons_append]
    cases skip with
    | succ k =>
      rw [piecesFrom, piecesFrom]
      exact ih ha' (Nat.le_of_succ_le_succ hskip)
    | zero =>
      have hmatch := matchAt_append he position true hlast b
      rw [List.cons_append] at hmatch
      rw [piecesFrom, piecesFrom, hmatch]
      cases h : e.matchAt position true (d :: a) with
      | none => exact congrArg _ (ih ha' (Nat.zero_le _))
      | some m =>
        obtain ⟨hnonempty, hpre⟩ := hword h
        obtain ⟨x, more, hm⟩ := List.exists_cons_of_ne_nil hnonempty
        have hlength := hpre.length_le
        rw [hm, List.length_cons, List.length_cons] at hlength
        simp only [hm]
        exact congrArg _ (ih ha' (Nat.le_of_succ_le_succ hlength))

end Expr

namespace Pattern

variable {p : Pattern} {c : Char} {a b : Text} {replacement : Match → Text}

/-- A scan cuts a text behind the character as it would cut the two parts. -/
def CutsAt (p : Pattern) (c : Char) : Prop :=
  ∀ ⦃a⦄, a.getLast? = some c → ∀ b, p.pieces (a ++ b) = p.pieces a ++ p.pieces b

/-- **Where a scan can be cut.** A plain pattern that never matches the empty text is cut behind a
character that no match goes on beyond. -/
theorem cutsAt_of_stops (hstops : p.expr.Stops c true = true) (hplain : p.expr.Plain = true)
    (hne : [] ∉ p.words) : p.CutsAt c :=
  fun _ ha b ↦ Expr.piecesFrom_append hstops hplain hne (.inr ha) b (Nat.zero_le _)

theorem CutsAt.replaceWith_append (h : p.CutsAt c) (ha : a.getLast? = some c)
    (replacement : Match → Text) (b : Text) :
    p.replaceWith replacement (a ++ b) =
      p.replaceWith replacement a ++ p.replaceWith replacement b := by
  rw [replaceWith, h ha, List.flatMap_append, replaceWith, replaceWith]

/-- What stands from one cut to another is replaced as it would be on its own. -/
theorem CutsAt.replaceWith_infix {d : Char} {w : Text} (hc : p.CutsAt c) (hd : p.CutsAt d)
    (hkept : ∀ s, s.getLast? = some c → (p.replaceWith replacement s).getLast? = some c)
    (hsingle : p.replaceWith replacement [c] = [c]) (hw : (c :: w).getLast? = some d) (a b : Text) :
    p.replaceWith replacement (c :: w) <:+: p.replaceWith replacement (a ++ c :: w ++ b) := by
  have hlast : (a ++ c :: w).getLast? = some d := by
    rw [List.getLast?_append, hw, Option.some_or]
  obtain ⟨z, hz⟩ := List.getLast?_eq_some_iff.1 (hkept (a ++ [c]) List.getLast?_concat)
  refine ⟨z, p.replaceWith replacement b, ?_⟩
  have hfirst := hc.replaceWith_append (a := [c]) rfl replacement w
  have hbehind := hc.replaceWith_append (a := a ++ [c]) List.getLast?_concat replacement w
  rw [hd.replaceWith_append hlast, List.append_cons, hbehind, hz, ← List.singleton_append, hfirst,
    hsingle]
  simp only [List.append_assoc]

theorem CutsAt.occursIn_append (h : p.CutsAt c) (ha : a.getLast? = some c) (b : Text) :
    p.occursIn (a ++ b) = (p.occursIn a || p.occursIn b) := by
  have hmatches : p.allMatches (a ++ b) = p.allMatches a ++ p.allMatches b := by
    rw [allMatches, h ha, List.filterMap_append, allMatches, allMatches]
  rw [Bool.eq_iff_iff, ← not_iff_not, Bool.or_eq_true, not_or, Bool.not_eq_true, Bool.not_eq_true,
    Bool.not_eq_true, ← allMatches_eq_nil_iff, ← allMatches_eq_nil_iff, ← allMatches_eq_nil_iff,
    hmatches, List.append_eq_nil_iff]

/-- A text that ends in the character still does after a rewriting that keeps it at the end of a
match. -/
theorem Rewrites.getLast?_eq_some {s t : Text} (h : p.Rewrites replacement s t)
    (hne : [] ∉ p.words) (hkept : ∀ m, p.expr.Spells m.text m.groups →
      m.text.getLast? = some c → (replacement m).getLast? = some c)
    (hs : s.getLast? = some c) : t.getLast? = some c := by
  -- at the end of the text, nothing is left to rewrite
  have hnil {t : Text} (h : p.Rewrites replacement [] t) : t = [] :=
    h.eq_of_not_occurs fun ⟨w, hw, hwt⟩ ↦ hne (List.infix_nil.1 hwt ▸ hw)
  induction h with
  | done => exact hs
  | @keep d b b' _ h ih =>
    by_cases hb : b = []
    · subst hb
      rwa [hnil h]
    · rw [List.getLast?_cons_of_ne_nil hb] at hs
      have hlast := ih hs
      have hb' : b' ≠ [] := by
        rintro rfl
        cases hlast
      rwa [List.getLast?_cons_of_ne_nil hb']
  | @found m b b' hm h ih =>
    by_cases hb : b = []
    · subst hb
      rw [hnil h, List.append_nil]
      rw [List.append_nil] at hs
      exact hkept m hm hs
    · obtain ⟨d, hd⟩ := Option.ne_none_iff_exists'.1 (mt List.getLast?_eq_none_iff.1 hb)
      rw [List.getLast?_append, hd, Option.some_or] at hs
      rw [List.getLast?_append, ih (hd.trans hs), Option.some_or]

end Pattern

end ShaderDowngrade

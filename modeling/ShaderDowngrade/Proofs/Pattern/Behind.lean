import ShaderDowngrade.Proofs.Pattern.Language
import ShaderDowngrade.Proofs.Text.Apart

/-!
# Matching behind a header

What is put in front of a text moves all of its places, and nothing else: an expression without
anchors matches behind a header as it would without. If moreover no word of it begins in the
header, then a scan keeps the header, character by character, and cuts the rest as before.

Main statement: `Pattern.keeps_of_outside`, which headers are kept.

## Why the words do not suffice

A pattern may stand for several words that begin at the same place, and which of them is matched is
a matter of preference. That two texts have the same words at the same places therefore does not
say that they are cut alike; that matching does not look at positions does.
-/

namespace ShaderDowngrade

/-- The same place, with more characters in front of the text. -/
def Cursor.shift (k : Nat) (s : Cursor) : Cursor := { s with position := s.position + k }

namespace Expr

/-- What the step finds does not depend on where the text begins. -/
def Movable (k : Nat) (round : Step) : Prop :=
  ∀ s next next', (∀ t, next' (t.shift k) = (next t).map (Cursor.shift k)) →
    round (s.shift k) next' = (round s next).map (Cursor.shift k)

variable {k : Nat} {round : Step} {next next' : Cursor → Option Cursor}

theorem map_orElse {f : Cursor → Cursor} (a : Option Cursor) (b : Unit → Option Cursor) :
    (a.orElse b).map f = (a.map f).orElse fun _ ↦ (b ()).map f := by
  cases a <;> rfl

theorem repeatExactly_shift (h : Movable k round)
    (hnext : ∀ t, next' (t.shift k) = (next t).map (Cursor.shift k)) (n : Nat) (s : Cursor) :
    repeatExactly round next' n (s.shift k) =
      (repeatExactly round next n s).map (Cursor.shift k) := by
  induction n generalizing s with
  | zero => exact hnext s
  | succ n ih => exact h _ _ _ ih

theorem repeatMore_shift (h : Movable k round) (greedy : Bool)
    (hnext : ∀ t, next' (t.shift k) = (next t).map (Cursor.shift k)) (n : Nat) (s : Cursor) :
    repeatMore round greedy next' n (s.shift k) =
      (repeatMore round greedy next n s).map (Cursor.shift k) := by
  induction n generalizing s with
  | zero => exact hnext s
  | succ n ih =>
    have again : (round (s.shift k) fun t ↦ if t.position = (s.shift k).position then next' t
          else repeatMore round greedy next' n t) =
        (round s fun t ↦ if t.position = s.position then next t
          else repeatMore round greedy next n t).map (Cursor.shift k) := by
      refine h _ _ _ fun t ↦ ?_
      simp only [Cursor.shift, Nat.add_right_cancel_iff]
      split
      · exact hnext t
      · exact ih t
    cases greedy <;> simp only [repeatMore, Bool.false_eq_true, if_true, if_false, again, hnext s,
      map_orElse]

theorem movable_run {e : Expr} (he : e.Plain = true) (k : Nat) : Movable k e.run := by
  induction e with
  | empty => exact fun s _ _ hnext ↦ hnext s
  | one test =>
    intro s next next' hnext
    rw [run_one, run_one, Cursor.shift]
    cases s.rest with
    | nil => rfl
    | cons c cs =>
      simp only
      split
      · rw [← hnext, Cursor.shift, Nat.add_right_comm]
      · rfl
  | start => cases he
  | finish => cases he
  | ahead wanted body => cases he
  | group index body ih =>
    intro s next next' hnext
    refine ih he _ _ _ fun t ↦ ?_
    rw [← hnext]
    simp only [Cursor.shift, Nat.add_sub_add_right]
  | seq first second ih ih' =>
    intro s next next' hnext
    obtain ⟨he, he'⟩ := Bool.and_eq_true_iff.1 he
    exact ih he _ _ _ fun t ↦ ih' he' _ _ _ hnext
  | alt first second ih ih' =>
    intro s next next' hnext
    obtain ⟨he, he'⟩ := Bool.and_eq_true_iff.1 he
    rw [run_alt, run_alt, map_orElse, ih he _ _ _ hnext, ih' he' _ _ _ hnext]
  | rep least most greedy body ih =>
    intro s next next' hnext
    have hbody : Movable k body.run := by
      cases body with
      | one test => exact ih rfl
      | _ => cases he
    simp only [run]
    refine repeatExactly_shift hbody ?_ least s
    exact fun t ↦ repeatMore_shift hbody greedy hnext (roundsLeft least most t.rest) t

theorem matchAt_shift {e : Expr} (he : e.Plain = true) (k position : Nat) (mayBeEmpty : Bool)
    (rest : Text) :
    e.matchAt (position + k) mayBeEmpty rest = e.matchAt position mayBeEmpty rest := by
  have hrun := movable_run he k ⟨position, rest, []⟩
    (fun t ↦ if mayBeEmpty || t.position != position then some t else none)
    (fun t ↦ if mayBeEmpty || t.position != position + k then some t else none) fun t ↦ by
      have hpos : (t.position + k != position + k) = (t.position != position) := by
        rw [Bool.eq_iff_iff]
        simp
      simp only [Cursor.shift, hpos]
      split <;> rfl
  rw [Cursor.shift] at hrun
  rw [matchAt, matchAt, hrun, Option.map_map]
  congr 1
  funext t
  simp only [Function.comp_apply, Cursor.shift, Nat.add_sub_add_right]

theorem piecesFrom_shift {e : Expr} (he : e.Plain = true) (k position skip : Nat) (text : Text) :
    e.piecesFrom (position + k) skip text = e.piecesFrom position skip text := by
  induction text generalizing position skip with
  | nil =>
    cases skip with
    | zero => rw [piecesFrom, piecesFrom, matchAt_shift he]
    | succ => rfl
  | cons c cs ih =>
    have ih (skip : Nat) : e.piecesFrom (position + k + 1) skip cs =
        e.piecesFrom (position + 1) skip cs := by
      rw [Nat.add_right_comm, ih]
    cases skip with
    | zero => simp only [piecesFrom, matchAt_shift he, ih]
    | succ => rw [piecesFrom, piecesFrom, ih]

end Expr

namespace Pattern

/-- A scan keeps the text wherever it stands in front. -/
def Keeps (p : Pattern) (d : Text) : Prop :=
  ∀ t, p.pieces (d ++ t) = d.map .kept ++ p.pieces t

variable {p : Pattern} {d e : Text}

theorem keeps_nil (p : Pattern) : p.Keeps [] := fun _ ↦ rfl

theorem Keeps.append (hd : p.Keeps d) (he : p.Keeps e) : p.Keeps (d ++ e) := by
  intro t
  rw [List.append_assoc, hd, he, List.map_append, List.append_assoc]

/-- **What is kept in front of a text.** A scan for a plain pattern keeps a header in which no word
of the pattern begins. -/
theorem keeps_of_outside (hp : p.expr.Plain = true) (hd : Text.Outside p.words {d}) :
    p.Keeps d := by
  intro t
  -- on the part `q` of the header that is still to come; `e` is what has been kept of it
  have key (q : Text) : ∀ e, d = e ++ q → ∀ position,
      p.expr.piecesFrom position 0 (q ++ t) = q.map .kept ++ p.expr.piecesFrom 0 0 t := by
    induction q with
    | nil =>
      intro _ _ position
      have := Expr.piecesFrom_shift hp position 0 0 t
      rwa [Nat.zero_add] at this
    | cons c q ih =>
      intro e he position
      have hnone : p.expr.matchAt position true (c :: q ++ t) = none := by
        by_contra hsome
        obtain ⟨m, hm⟩ := Option.ne_none_iff_exists'.1 hsome
        obtain ⟨hspells, v, hv⟩ := Expr.spells_of_matchAt hm
        exact hd ⟨_, hspells⟩ rfl he (List.cons_ne_nil c q) (Text.comparable_of_append_eq hv.symm)
      rw [List.cons_append] at hnone ⊢
      simp only [Expr.piecesFrom, hnone, List.map_cons, List.cons_append]
      rw [ih (e ++ [c]) (by simp [he])]
  exact key d [] rfl 0

theorem Keeps.count_append (h : p.Keeps d) (t : Text) : p.count (d ++ t) = p.count t := by
  have hkept : d.filterMap (Piece.match? ∘ Piece.kept) = [] :=
    List.filterMap_eq_nil_iff.2 fun _ _ ↦ rfl
  rw [count, allMatches, h, List.filterMap_append, List.filterMap_map, hkept, List.nil_append]
  rfl

theorem Keeps.replaceWith_append (h : p.Keeps d) (replacement : Match → Text) (t : Text) :
    p.replaceWith replacement (d ++ t) = d ++ p.replaceWith replacement t := by
  rw [replaceWith, h, List.flatMap_append, List.flatMap_map]
  exact congrArg (· ++ _) (List.flatMap_singleton' d)

end Pattern

end ShaderDowngrade

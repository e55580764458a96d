import Mathlib.Data.Set.Insert
import Mathlib.Logic.Relation
import ShaderDowngrade.Text.Basic

/-!
# Words that cannot overlap

Whether a rewrite can make or break a word is a question about overlaps: the word may reach from
the text around into the piece that is put in, or lie across it. Two sets of words are *apart* if
nothing of this kind is possible, whatever stands around. An occurrence in `a ++ x ++ b` is then one
in `a` or one in `b`, and replacing `x` by another such piece changes nothing.

Main statements: `Text.Apart.occurs_append_iff`, the occurrences around a piece that is apart;
`Text.Swaps.occurs_iff` and `Text.Swaps.precedes_iff`, what rewriting keeps of words that are apart
from both what it takes and what it puts in.
-/

namespace ShaderDowngrade.Text

/-- A word of the set occurs in the text. -/
def Occurs (W : Set Text) (t : Text) : Prop := ∃ w ∈ W, w <:+: t

theorem Occurs.of_isInfix {W : Set Text} {s t : Text} (h : Occurs W s) (hi : s <:+: t) :
    Occurs W t :=
  let ⟨w, hw, hs⟩ := h
  ⟨w, hw, hs.trans hi⟩

theorem occurs_singleton {w t : Text} : Occurs {w} t ↔ includes t w = true := by
  rw [includes_iff]
  simp [Occurs]

/-- One of the two is a prefix of the other, so that both can begin at the same place. -/
def Comparable (s t : Text) : Prop := s <+: t ∨ t <+: s

theorem comparable_cons_cons {c d : Char} {s t : Text} :
    Comparable (c :: s) (d :: t) ↔ c = d ∧ Comparable s t := by
  simp only [Comparable, List.cons_prefix_cons, @eq_comm _ d, and_or_left]

theorem comparable_of_append_eq {s t u v : Text} (h : s ++ u = t ++ v) : Comparable s t := by
  rcases List.append_eq_append_iff.1 h with ⟨z, rfl, -⟩ | ⟨z, rfl, -⟩
  · exact .inl (List.prefix_append s z)
  · exact .inr (List.prefix_append t z)

theorem Comparable.symm {s t : Text} (h : Comparable s t) : Comparable t s :=
  Or.symm h

theorem Comparable.of_isPrefix {s t u : Text} (h : Comparable s t) (hu : u <+: t) :
    Comparable s u :=
  h.elim (List.prefix_or_prefix_of_prefix · hu) (.inr <| hu.trans ·)

theorem beginning_cases {x b u w v : Text} (h : x ++ b = u ++ w ++ v) :
    (∃ s, b = s ++ w ++ v ∧ u = x ++ s) ∨ ∃ q, q ≠ [] ∧ x = u ++ q ∧ q ++ b = w ++ v := by
  rw [List.append_assoc] at h
  rcases List.append_eq_append_iff.1 h with ⟨s, rfl, hb⟩ | ⟨q, rfl, hq⟩
  · exact .inl ⟨s, by rw [hb, List.append_assoc], rfl⟩
  · by_cases hne : q = []
    · subst hne
      exact .inl ⟨[], by simpa using hq.symm, by simp⟩
    · exact .inr ⟨q, hne, rfl, hq.symm⟩

/-- **The four positions** of a word in `a ++ x ++ b`: it ends before `x` begins, it begins behind
`x`, it begins before `x` and reaches into it, or it begins in `x`. -/
theorem position_cases {a x b u w v : Text} (h : a ++ x ++ b = u ++ w ++ v) :
    (∃ s, a = u ++ w ++ s ∧ v = s ++ x ++ b) ∨
      (∃ s, b = s ++ w ++ v ∧ u = a ++ x ++ s) ∨
      (∃ p q, p ≠ [] ∧ q ≠ [] ∧ w = p ++ q ∧ a = u ++ p ∧ x ++ b = q ++ v) ∨
      (∃ p q, q ≠ [] ∧ x = p ++ q ∧ u = a ++ p ∧ q ++ b = w ++ v) := by
  -- the word begins in `x` or behind it
  have inside {p : Text} (hu : u = a ++ p) (hx : x ++ b = p ++ (w ++ v)) :
      (∃ s, b = s ++ w ++ v ∧ u = a ++ x ++ s) ∨
        (∃ p q, q ≠ [] ∧ x = p ++ q ∧ u = a ++ p ∧ q ++ b = w ++ v) := by
    rw [← List.append_assoc] at hx
    rcases beginning_cases hx with ⟨s, hb, rfl⟩ | ⟨q, hq, hxq, he⟩
    · exact .inl ⟨s, hb, by rw [hu, List.append_assoc]⟩
    · exact .inr ⟨p, q, hq, hxq, hu, he⟩
  rw [List.append_assoc, List.append_assoc] at h
  rcases List.append_eq_append_iff.1 h with ⟨p, hu, hx⟩ | ⟨p, ha, hw⟩
  · exact .inr ((inside hu hx).imp_right .inr)
  · by_cases hp : p = []
    · subst hp
      rw [List.append_nil] at ha
      exact .inr ((inside (p := []) (by rw [ha, List.append_nil]) hw.symm).imp_right .inr)
    · rcases List.append_eq_append_iff.1 hw with ⟨s, rfl, hv⟩ | ⟨q, rfl, hq⟩
      · exact .inl ⟨s, by rw [ha, List.append_assoc], by rw [hv, List.append_assoc]⟩
      · by_cases hne : q = []
        · subst hne
          exact .inl ⟨[], by simpa using ha, by simpa using hq.symm⟩
        · exact .inr (.inr (.inl ⟨p, q, hp, hne, rfl, ha, hq⟩))

/-! ## Apart -/

/-- Where a word of `W` begins before a word of `X` and reaches into it, what stands before is one
of the stubs in `H`. -/
def ReachesBy (H W X : Set Text) : Prop :=
  ∀ ⦃w⦄, w ∈ W → ∀ ⦃x⦄, x ∈ X → ∀ ⦃p q⦄, w = p ++ q → p ≠ [] → q ≠ [] → Comparable q x → p ∈ H

/-- No word of `W` begins in a word of `X`, whether or not it ends there. -/
def Outside (W X : Set Text) : Prop :=
  ∀ ⦃w⦄, w ∈ W → ∀ ⦃x⦄, x ∈ X → ∀ ⦃p q⦄, x = p ++ q → q ≠ [] → ¬ Comparable q w

theorem ReachesBy.mono {H W V X Y : Set Text} (h : ReachesBy H W X) (hV : V ⊆ W) (hY : Y ⊆ X) :
    ReachesBy H V Y :=
  fun _ hw _ hx ↦ h (hV hw) (hY hx)

theorem Outside.mono {W V X Y : Set Text} (h : Outside W X) (hV : V ⊆ W) (hY : Y ⊆ X) :
    Outside V Y :=
  fun _ hw _ hx ↦ h (hV hw) (hY hx)

theorem Outside.occurs_of_append {W X : Set Text} (h : Outside W X) {x b : Text} (hx : x ∈ X)
    (ho : Occurs W (x ++ b)) : Occurs W b := by
  obtain ⟨w, hw, u, v, huv⟩ := ho
  rcases beginning_cases huv.symm with ⟨s, hs, -⟩ | ⟨q, hq, hxq, he⟩
  · exact ⟨w, hw, s, v, hs.symm⟩
  · exact absurd (comparable_of_append_eq he) (h hw hx hxq hq)

theorem reachesBy_univ (W X : Set Text) : ReachesBy Set.univ W X :=
  fun _ _ _ _ _ _ _ _ _ _ ↦ Set.mem_univ _

theorem outside_singleton_nil (W : Set Text) : Outside W {[]} := by
  rintro w - x rfl p q hpq hq -
  exact hq (List.append_eq_nil_iff.1 hpq.symm).2

/-- No word of `W` overlaps a word of `X`: wherever one occurs in a text around a word of `X`, it
ends before that word begins or begins behind it. -/
def Apart (W X : Set Text) : Prop :=
  ∀ ⦃w⦄, w ∈ W → ∀ ⦃x⦄, x ∈ X → ∀ ⦃a b u v⦄, a ++ x ++ b = u ++ w ++ v →
    (∃ s, a = u ++ w ++ s ∧ v = s ++ x ++ b) ∨ (∃ s, b = s ++ w ++ v ∧ u = a ++ x ++ s)

theorem Apart.mono {W V X Y : Set Text} (h : Apart W X) (hV : V ⊆ W) (hY : Y ⊆ X) : Apart V Y :=
  fun _ hw _ hx ↦ h (hV hw) (hY hx)

theorem apart_of_reachesBy {W X : Set Text} (hreach : ReachesBy ∅ W X) (hout : Outside W X) :
    Apart W X := by
  intro w hw x hx a b u v h
  rcases position_cases h with h | h | ⟨p, q, hp, hq, hpq, -, he⟩ | ⟨p, q, hq, hpq, -, he⟩
  · exact .inl h
  · exact .inr h
  · exact (hreach hw hx hpq hp hq (comparable_of_append_eq he.symm)).elim
  · exact absurd (comparable_of_append_eq he) (hout hw hx hpq hq)

theorem Apart.occurs_append_iff {W X : Set Text} (h : Apart W X) {x : Text} (hx : x ∈ X)
    (a b : Text) : Occurs W (a ++ x ++ b) ↔ Occurs W a ∨ Occurs W b := by
  constructor
  · rintro ⟨w, hw, u, v, huv⟩
    rcases h hw hx huv.symm with ⟨s, rfl, -⟩ | ⟨s, rfl, -⟩
    · exact .inl ⟨w, hw, u, s, rfl⟩
    · exact .inr ⟨w, hw, s, v, rfl⟩
  · rintro (ha | hb)
    · exact ha.of_isInfix ⟨[], x ++ b, by simp⟩
    · exact hb.of_isInfix (List.suffix_append (a ++ x) b).isInfix

/-! ## Rewriting -/

/-- One piece from `X` gives way to one from `Y`, in any surroundings. -/
inductive Swap (X Y : Set Text) : Text → Text → Prop
  | mk (a b : Text) {x y : Text} (hx : x ∈ X) (hy : y ∈ Y) : Swap X Y (a ++ x ++ b) (a ++ y ++ b)

/-- Any number of pieces from `X` give way to pieces from `Y`, one after the other. -/
def Swaps (X Y : Set Text) : Text → Text → Prop := Relation.ReflTransGen (Swap X Y)

variable {W X Y : Set Text} {s t : Text}

theorem Swap.symm (h : Swap X Y s t) : Swap Y X t s := by
  cases h with
  | mk a b hx hy => exact .mk a b hy hx

theorem Swap.append_left (h : Swap X Y s t) (p : Text) : Swap X Y (p ++ s) (p ++ t) := by
  cases h with
  | mk a b hx hy => simpa using Swap.mk (p ++ a) b hx hy

theorem Swaps.append_left (h : Swaps X Y s t) (p : Text) : Swaps X Y (p ++ s) (p ++ t) :=
  h.lift (p ++ ·) fun _ _ hstep ↦ hstep.append_left p

theorem Swap.mono {X' Y' : Set Text} (h : Swap X Y s t) (hX : X ⊆ X') (hY : Y ⊆ Y') :
    Swap X' Y' s t := by
  cases h with
  | mk a b hx hy => exact .mk a b (hX hx) (hY hy)

theorem Swaps.mono {X' Y' : Set Text} (h : Swaps X Y s t) (hX : X ⊆ X') (hY : Y ⊆ Y') :
    Swaps X' Y' s t :=
  h.lift id fun _ _ hstep ↦ hstep.mono hX hY

theorem Swaps.symm (h : Swaps X Y s t) : Swaps Y X t s := by
  induction h with
  | refl => exact .refl
  | tail _ hstep ih => exact .head hstep.symm ih

theorem Swaps.occurs_of_occurs (h : Swaps X Y s t) (hY : Apart W Y) (ht : Occurs W t) :
    Occurs W s := by
  induction h with
  | refl => exact ht
  | tail _ hstep ih =>
    cases hstep with
    | @mk a b x y hx hy =>
      apply ih
      rcases (hY.occurs_append_iff hy a b).1 ht with ha | hb
      · exact ha.of_isInfix ⟨[], x ++ b, by simp⟩
      · exact hb.of_isInfix (List.suffix_append (a ++ x) b).isInfix

theorem Swaps.occurs_iff (h : Swaps X Y s t) (hX : Apart W X) (hY : Apart W Y) :
    Occurs W t ↔ Occurs W s :=
  ⟨h.occurs_of_occurs hY, h.symm.occurs_of_occurs hX⟩

/-! ## The order of two words -/

/-- Both words occur in the text, and some `first` comes before every `second`. -/
def Precedes (first second t : Text) : Prop :=
  Occurs {second} t ∧ ∃ a b, t = a ++ first ++ b ∧ ¬ Occurs {second} a

theorem Swap.precedes {first second : Text} (h : Swap X Y s t) (hX : Apart {first, second} X)
    (hY : Apart {first, second} Y) (hs : Precedes first second s) : Precedes first second t := by
  have hX₂ : Apart {second} X := hX.mono (by simp) (le_refl X)
  have hY₂ : Apart {second} Y := hY.mono (by simp) (le_refl Y)
  obtain ⟨hocc, u, v, huv, hnot⟩ := hs
  refine ⟨(Swaps.occurs_iff (.single h) hX₂ hY₂).2 hocc, ?_⟩
  cases h with
  | @mk a b x y hx hy =>
    rcases hX (by simp : first ∈ _) hx huv with ⟨r, rfl, -⟩ | ⟨r, rfl, rfl⟩
    · exact ⟨u, r ++ y ++ b, by simp, hnot⟩
    · refine ⟨a ++ y ++ r, v, by simp, ?_⟩
      rwa [hY₂.occurs_append_iff hy, ← hX₂.occurs_append_iff hx]

theorem Swaps.precedes_iff {first second : Text} (h : Swaps X Y s t)
    (hX : Apart {first, second} X) (hY : Apart {first, second} Y) :
    Precedes first second t ↔ Precedes first second s := by
  induction h with
  | refl => rfl
  | tail _ hstep ih =>
    exact ⟨fun ht ↦ ih.1 (hstep.symm.precedes hY hX ht), fun hs ↦ hstep.precedes hX hY (ih.2 hs)⟩

end ShaderDowngrade.Text

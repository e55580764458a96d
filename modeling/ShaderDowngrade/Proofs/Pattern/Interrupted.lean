import ShaderDowngrade.Proofs.Pattern.Rewriting
import ShaderDowngrade.Proofs.Pattern.Shape

/-!
# Words that a deletion joins

Deleting pieces of a text joins what stood around them, and a word that was not in the text can come
about. Its characters then stood in the text in their order, with nothing but deleted pieces between
them: the word was interrupted.

Main statements: `Pattern.Rewrites.occurs_iff_interrupted`, after a deletion a word that was not
there before occurs exactly if it was interrupted; `Pattern.Rewrites.occurs_iff_interruptions`, the
same for what is deleted itself; `Shape.apart_interrupted` and `Shape.apart_interruptions`, checks
that show interrupted words to be apart from other pieces.

## Why shapes of interrupted words are not enough

Any number of pieces may stand between two characters of a word, so no finite list of shapes covers
the interrupted words. But a piece that is put into a text can only be held against what it meets
first: the rest of a deleted piece, a part of the word up to the next deleted piece, or the end of
the word. Those are finitely many shapes, the windows of the word.
-/

namespace ShaderDowngrade

namespace Text

/-- The text spells the word, with pieces from `X` in front of any of its characters. -/
inductive Spread (X : Set Text) : Text → Text → Prop
  | done : Spread X [] []
  | next {c : Char} {w t : Text} (h : Spread X w t) : Spread X (c :: w) (c :: t)
  | piece {c : Char} {x w t : Text} (hx : x ∈ X) (h : Spread X (c :: w) t) :
      Spread X (c :: w) (x ++ t)

/-- The texts that spell the word from its first character to its last, with pieces from `X`, one or
more, between its characters. -/
def interrupted (X : Set Text) (w : Text) : Set Text :=
  {t | ∃ c v s, w = c :: v ∧ t = c :: s ∧ Spread X v s ∧ s ≠ v}

/-- The texts that spell a word of the second set and have pieces from the first one between its
characters. -/
def interruptions (X W : Set Text) : Set Text := {t | ∃ w ∈ W, t ∈ interrupted X w}

variable {X : Set Text} {w t : Text}

theorem interruptions_singleton (X : Set Text) (w : Text) :
    interruptions X {w} = interrupted X w := by
  simp [interruptions]

theorem spread_of_mem_interrupted (h : t ∈ interrupted X w) : Spread X w t := by
  obtain ⟨c, v, s, rfl, rfl, hs, -⟩ := h
  exact hs.next

theorem ne_nil_of_mem_interrupted (h : t ∈ interrupted X w) : t ≠ [] := by
  obtain ⟨c, -, s, -, rfl, -⟩ := h
  exact List.cons_ne_nil c s

theorem Spread.exists_beginning (h : Spread X w t) (hne : t ≠ w) :
    ∃ k q, q ≠ [] ∧ w = k ++ q ∧ ∃ x ∈ X, k ++ x <+: t := by
  induction h with
  | done => exact absurd rfl hne
  | @next c w t _ ih =>
    obtain ⟨k, q, hq, rfl, x, hx, hpre⟩ := ih fun h ↦ hne (by rw [h])
    exact ⟨c :: k, q, hq, rfl, x, hx, List.cons_prefix_cons.2 ⟨rfl, hpre⟩⟩
  | @piece c x w t hx _ _ =>
    exact ⟨[], c :: w, List.cons_ne_nil c w, rfl, x, hx, List.prefix_append x t⟩

theorem exists_prefix_of_mem_interrupted (h : t ∈ interrupted X w) :
    ∃ k q, k ≠ [] ∧ q ≠ [] ∧ w = k ++ q ∧ ∃ x ∈ X, k ++ x <+: t := by
  obtain ⟨c, v, s, rfl, rfl, hs, hne⟩ := h
  obtain ⟨k, q, hq, rfl, x, hx, hpre⟩ := hs.exists_beginning hne
  exact ⟨c :: k, q, List.cons_ne_nil c k, hq, rfl, x, hx, List.cons_prefix_cons.2 ⟨rfl, hpre⟩⟩

/-- Behind a cut there is the rest of a piece, a part of the word up to the next piece, or the end
of the word. -/
theorem Spread.exists_window (h : Spread X w t) {p q : Text} (ht : t = p ++ q) (hq : q ≠ []) :
    (∃ k r, k ++ r ∈ X ∧ r ≠ [] ∧ r <+: q) ∨
      (∃ a k b, w = a ++ (k ++ b) ∧ k ≠ [] ∧ b ≠ [] ∧ ∃ x ∈ X, k ++ x <+: q) ∨
      ∃ a, w = a ++ q := by
  induction h generalizing p q with
  | done => exact absurd (List.append_eq_nil_iff.1 ht.symm).2 hq
  | @next c w t h ih =>
    cases p with
    | nil =>
      obtain rfl : c :: t = q := ht
      by_cases hne : t = w
      · exact .inr (.inr ⟨[], by rw [hne, List.nil_append]⟩)
      · obtain ⟨k, b, hb, rfl, x, hx, hpre⟩ := h.exists_beginning hne
        exact .inr (.inl ⟨[], c :: k, b, rfl, List.cons_ne_nil c k, hb, x, hx,
          List.cons_prefix_cons.2 ⟨rfl, hpre⟩⟩)
    | cons d p =>
      rcases ih (List.cons.inj ht).2 hq with hx | ⟨a, k, b, rfl, hk⟩ | ⟨a, rfl⟩
      · exact .inl hx
      · exact .inr (.inl ⟨c :: a, k, b, rfl, hk⟩)
      · exact .inr (.inr ⟨c :: a, rfl⟩)
  | @piece c x w t hx _ ih =>
    -- the cut lies behind the piece or in it
    rcases List.append_eq_append_iff.1 ht with ⟨z, -, htz⟩ | ⟨z, rfl, rfl⟩
    · exact ih htz hq
    · by_cases hz : z = []
      · exact ih (p := []) (by rw [hz]; rfl) hq
      · exact .inl ⟨p, z, hx, hz, List.prefix_append z t⟩

/-- No piece from `X` begins in the text, be it the rest of the text that follows or the text up to
another such piece. -/
structure Free (X : Set Text) (w : Text) : Prop where
  /-- The text to its end is not the beginning of a piece. -/
  whole : ∀ ⦃a k⦄, w = a ++ k → k ≠ [] → ∀ y ∈ X, ¬ Comparable k y
  /-- The text up to another piece is not the beginning of a piece. -/
  broken : ∀ ⦃a k r⦄, w = a ++ (k ++ r) → k ≠ [] → r ≠ [] → ∀ x ∈ X, ∀ y ∈ X,
    ¬ Comparable (k ++ x) y

theorem Free.tail {c : Char} (h : Free X (c :: w)) : Free X w where
  whole a k hw := h.whole (a := c :: a) (by rw [hw, List.cons_append])
  broken a k r hw := h.broken (a := c :: a) (by rw [hw, List.cons_append])

theorem free_of_forall_mem (h : ∀ c ∈ w, ∀ y ∈ X, ¬ Comparable [c] y) : Free X w := by
  have key {a k r v y : Text} (hw : w = a ++ (k ++ r)) (hk : k ≠ []) (hy : y ∈ X) :
      ¬ Comparable (k ++ v) y := by
    obtain ⟨c, k, rfl⟩ := List.exists_cons_of_ne_nil hk
    refine fun hcomp ↦ h c (by simp [hw]) y hy (hcomp.symm.of_isPrefix ⟨k ++ v, ?_⟩).symm
    rfl
  constructor
  · intro a k hw hk y hy
    have := key (v := []) (r := []) (by rw [hw, List.append_nil]) hk hy
    rwa [List.append_nil] at this
  · exact fun a k r hw hk _ x _ y hy ↦ key hw hk hy

theorem Spread.not_comparable {c : Char} {v y : Text} (h : Spread X w v) (hfree : Free X (c :: w))
    (hy : y ∈ X) : ¬ Comparable (c :: v) y := by
  by_cases hne : v = w
  · rw [hne]
    exact hfree.whole (a := []) rfl (List.cons_ne_nil c w) y hy
  · obtain ⟨k, r, hr, rfl, x, hx, hpre⟩ := h.exists_beginning hne
    intro hcomp
    have hbroken := hfree.broken (a := []) (k := c :: k) rfl (List.cons_ne_nil c k) hr x hx y hy
    exact hbroken (hcomp.symm.of_isPrefix (List.cons_prefix_cons.2 ⟨rfl, hpre⟩)).symm

end Text

/-! ## The check -/

namespace Shape

/-- All that a word of the shape begins with, up to some cut. -/
def starts : Shape → List Shape := beginnings fun _ ↦ true

theorem mem_words_starts {s : Shape} {k q : Text} (h : s.Fits (k ++ q)) (hk : k ≠ [])
    (hq : q ≠ []) : k ∈ words s.starts :=
  mem_words_beginnings h hk hq fun _ _ ↦ rfl

/-- Shapes of what can be met behind a cut through a word of the first shapes, if words of the
second ones are spread over it. -/
def windowsOf (ss xs : List Shape) : List Shape :=
  xs.flatMap tails ++ joined ((ss.flatMap tails).flatMap starts) xs ++ ss.flatMap tails

/-- Shapes of what can be met behind a cut through the word, if words of the given shapes interrupt
it. -/
def windows (w : Text) (xs : List Shape) : List Shape :=
  xs.flatMap tails ++ joined ((tails (ofWord w.tail)).flatMap starts) xs ++ tails (ofWord w.tail)

/-- Whether the word, interrupted by words of the first shapes, is apart from those of the
second. -/
def interruptedApart (w : Text) (xs ys : List Shape) : Bool :=
  outside (joined (ofWord w).starts xs) ys && separate (windows w xs) ys

/-- Whether no word of the first shapes begins where a word of the second does that goes over into
a word of the third. What may stand in the first place tells it apart most of the time. -/
def separateFromStarts (ys ss xs : List Shape) : Bool :=
  ys.all fun y ↦ ss.all fun s ↦ separate [y] [s.take 1] || separate [y] (joined s.starts xs)

/-- Whether words of the first shapes, interrupted by words of the second, are apart from those of
the third. -/
def interruptionsApart (ss xs ys : List Shape) : Bool :=
  separateFromStarts (ys.flatMap tails) ss xs && separate ys (xs.flatMap tails) &&
    separate ys (ss.flatMap tails) && separateFromStarts ys (ss.flatMap tails) xs

/-- Whether no word of the second shapes begins in a word of the first. -/
def free (ss xs : List Shape) : Bool :=
  separate xs (ss.flatMap tails) && separateFromStarts xs (ss.flatMap tails) xs

variable {X W : Set Text} {w : Text} {ss xs ys : List Shape}

theorem meets_take_one {y s : Shape} (h : y.meets s = true) : y.meets (s.take 1) = true := by
  cases y with
  | nil => rfl
  | cons k ks =>
    cases s with
    | nil => rfl
    | cons l ls =>
      rw [meets_cons_cons, Bool.and_eq_true] at h
      rw [List.take_succ_cons, List.take_zero, meets_cons_cons, h.1, meets_nil]
      rfl

theorem separate_joined_starts (h : separateFromStarts ys ss xs = true) :
    separate ys (joined (ss.flatMap starts) xs) = true := by
  simp only [separate, List.all_eq_true, Bool.not_eq_true']
  intro y hy t ht
  obtain ⟨b, hb, ht⟩ := List.mem_flatMap.1 ht
  obtain ⟨s, hs, hb⟩ := List.mem_flatMap.1 hb
  have hsy := List.all_eq_true.1 (List.all_eq_true.1 h y hy) s hs
  rw [Bool.or_eq_true] at hsy
  rcases hsy with hfirst | hjoined
  · obtain ⟨x, -, rfl⟩ := List.mem_map.1 ht
    cases s with
    | nil => cases hb
    | cons k ks =>
      obtain ⟨more, rfl⟩ := exists_cons_of_mem_beginnings hb
      by_contra hmeets
      have := meets_take_one (Bool.eq_true_of_not_eq_false hmeets)
      simp_all [separate]
  · have hmem : t ∈ joined s.starts xs := List.mem_flatMap.2 ⟨b, hb, ht⟩
    have := List.all_eq_true.1 (List.all_eq_true.1 hjoined y (List.mem_singleton_self y)) t hmem
    simpa using this

theorem not_comparable_words {ts : List Shape} (h : separate ss ts = true) {v : Text}
    (hw : w ∈ words ss) (hv : v ∈ words ts) : ¬ Text.Comparable w v := by
  obtain ⟨s, hs, hw⟩ := hw
  obtain ⟨t, ht, hv⟩ := hv
  exact not_comparable_of_separate h hs ht hw hv

theorem outside_interruptions (hX : X ⊆ words xs) (hW : W ⊆ words ss)
    (h : outside (joined (ss.flatMap starts) xs) ys = true) :
    Text.Outside (Text.interruptions X W) (words ys) := by
  rintro t ⟨w, hw, ht⟩ y hy p q hpq hq hcomp
  obtain ⟨k, r, hk, hr, rfl, x, hx, hpre⟩ := Text.exists_prefix_of_mem_interrupted ht
  obtain ⟨s, hs, hfits⟩ := hW hw
  obtain ⟨b, hb, hkb⟩ := mem_words_starts hfits hk hr
  have hbegin : k ++ x ∈ words (joined (ss.flatMap starts) xs) :=
    append_mem_words ⟨b, List.mem_flatMap.2 ⟨s, hs, hb⟩, hkb⟩ (hX hx)
  exact outside_words h hbegin hy hpq hq (hcomp.of_isPrefix hpre)

theorem outside_interrupted (hX : X ⊆ words xs)
    (h : outside (joined (ofWord w).starts xs) ys = true) :
    Text.Outside (Text.interrupted X w) (words ys) := by
  rw [← Text.interruptions_singleton]
  refine outside_interruptions hX (words_ofWord w).ge ?_
  rwa [List.flatMap_singleton]

theorem exists_window_of_spread {v t p q : Text} (hX : X ⊆ words xs) (hv : v ∈ words ss)
    (ht : Text.Spread X v t) (hpq : t = p ++ q) (hq : q ≠ []) :
    ∃ r ∈ words (windowsOf ss xs), r <+: q := by
  obtain ⟨s, hs, hfits⟩ := hv
  rcases ht.exists_window hpq hq with
    ⟨k, r, hx, hr, hpre⟩ | ⟨a, k, b, rfl, hk, hb, x, hx, hpre⟩ | ⟨a, rfl⟩
  · obtain ⟨s, hs, hfits⟩ := hX hx
    obtain ⟨s', hs', hr⟩ := exists_mem_tails hfits hr
    refine ⟨r, ⟨s', ?_, hr⟩, hpre⟩
    exact List.mem_append_left _ (List.mem_append_left _ (List.mem_flatMap.2 ⟨s, hs, hs'⟩))
  · have hne : k ++ b ≠ [] := fun h ↦ hk (List.append_eq_nil_iff.1 h).1
    obtain ⟨s', hs', hfits⟩ := exists_mem_tails hfits hne
    obtain ⟨s'', hs'', hk⟩ := mem_words_starts hfits hk hb
    have hs' := List.mem_flatMap.2 ⟨s, hs, hs'⟩
    obtain ⟨u, hu, hfits⟩ :=
      append_mem_words ⟨s'', List.mem_flatMap.2 ⟨s', hs', hs''⟩, hk⟩ (hX hx)
    exact ⟨k ++ x, ⟨u, List.mem_append_left _ (List.mem_append_right _ hu), hfits⟩, hpre⟩
  · obtain ⟨s', hs', hfits⟩ := exists_mem_tails hfits hq
    exact ⟨q, ⟨s', List.mem_append_right _ (List.mem_flatMap.2 ⟨s, hs, hs'⟩), hfits⟩,
      List.prefix_refl q⟩

theorem exists_window {t p q : Text} (hX : X ⊆ words xs) (ht : t ∈ Text.interrupted X w)
    (hpq : t = p ++ q) (hp : p ≠ []) (hq : q ≠ []) :
    ∃ r ∈ words (windows w xs), r <+: q := by
  obtain ⟨c, v, s, rfl, rfl, hs, -⟩ := ht
  obtain ⟨d, p, rfl⟩ := List.exists_cons_of_ne_nil hp
  have hwindows : windows (c :: v) xs = windowsOf [ofWord v] xs := by
    simp [windows, windowsOf]
  rw [hwindows]
  exact exists_window_of_spread hX ((words_ofWord v).ge rfl) hs (List.cons.inj hpq).2 hq

theorem apart_of_windows {T Y R : Set Text} (hout : Text.Outside T Y)
    (hwindow : ∀ t ∈ T, ∀ p q, t = p ++ q → p ≠ [] → q ≠ [] → ∃ r ∈ R, r <+: q)
    (h : ∀ r ∈ R, ∀ y ∈ Y, ¬ Text.Comparable r y) : Text.Apart T Y := by
  refine Text.apart_of_reachesBy ?_ hout
  rintro t ht y hy p q hpq hp hq hcomp
  obtain ⟨r, hr, hpre⟩ := hwindow t ht p q hpq hp hq
  exact h r hr y hy (hcomp.symm.of_isPrefix hpre).symm

theorem apart_interrupted (hX : X ⊆ words xs) (h : interruptedApart w xs ys = true) :
    Text.Apart (Text.interrupted X w) (words ys) := by
  obtain ⟨hout, hwindows⟩ := Bool.and_eq_true_iff.1 h
  exact apart_of_windows (outside_interrupted hX hout)
    (fun t ht p q hpq hp hq ↦ exists_window hX ht hpq hp hq)
    fun r hr y hy ↦ not_comparable_words hwindows hr hy

theorem apart_interruptions (hX : X ⊆ words xs) (hW : W ⊆ words ss)
    (h : interruptionsApart ss xs ys = true) : Text.Apart (Text.interruptions X W) (words ys) := by
  simp only [interruptionsApart, Bool.and_eq_true] at h
  obtain ⟨⟨⟨hout, hpieces⟩, htails⟩, hstarts⟩ := h
  refine apart_of_windows (R := words (windowsOf ss xs))
    (outside_interruptions hX hW (separate_joined_starts hout)) ?_ ?_
  · rintro t ⟨w, hw, ht⟩ p q hpq - hq
    exact exists_window_of_spread hX (hW hw) (Text.spread_of_mem_interrupted ht) hpq hq
  · rintro r ⟨s, hs, hr⟩ y hy hcomp
    rcases List.mem_append.1 hs with hs | hs
    · rcases List.mem_append.1 hs with hs | hs
      · exact not_comparable_words hpieces hy ⟨s, hs, hr⟩ hcomp.symm
      · exact not_comparable_words (separate_joined_starts hstarts) hy ⟨s, hs, hr⟩ hcomp.symm
    · exact not_comparable_words htails hy ⟨s, hs, hr⟩ hcomp.symm

theorem free_of_mem_words (hX : X ⊆ words xs) (h : free ss xs = true) (hw : w ∈ words ss) :
    Text.Free X w := by
  obtain ⟨s, hs, hfits⟩ := hw
  obtain ⟨htails, hstarts⟩ := Bool.and_eq_true_iff.1 h
  constructor
  · rintro a k rfl hk y hy hcomp
    obtain ⟨r, hr, hfits⟩ := exists_mem_tails hfits hk
    exact not_comparable_words htails (hX hy) ⟨r, List.mem_flatMap.2 ⟨s, hs, hr⟩, hfits⟩ hcomp.symm
  · rintro a k r rfl hk hr x hx y hy hcomp
    have hne : k ++ r ≠ [] := fun h ↦ hk (List.append_eq_nil_iff.1 h).1
    obtain ⟨s', hs', hfits⟩ := exists_mem_tails hfits hne
    obtain ⟨b, hb, hk⟩ := mem_words_starts hfits hk hr
    have hs' := List.mem_flatMap.2 ⟨s, hs, hs'⟩
    have hjoined := append_mem_words ⟨b, List.mem_flatMap.2 ⟨s', hs', hb⟩, hk⟩ (hX hx)
    exact not_comparable_words (separate_joined_starts hstarts) (hX hy) hjoined hcomp.symm

theorem tail_mem_words (h : ss.all (fun s ↦ s.head?.all (!·.many)) = true) (hw : w ∈ words ss) :
    w.tail ∈ words (ss.map List.tail) := by
  obtain ⟨s, hs, hfits⟩ := hw
  have hsingle := List.all_eq_true.1 h s hs
  refine ⟨s.tail, List.mem_map_of_mem hs, ?_⟩
  cases hfits with
  | done => exact .done
  | next _ hfits => exact hfits
  | stay hmany _ _ => simp [hmany] at hsingle

/-! ## Words with a closing character -/

/-- The character stands in the last place, and only there. -/
def closedBy (c : Char) (s : Shape) : Bool :=
  avoids c s.dropLast && s.getLast? == some ⟨[(c.toNat, c.toNat)], false⟩

theorem Fits.exists_closed {s : Shape} {c : Char} (h : s.Fits w) (hc : s.closedBy c = true) :
    ∃ b, w = b ++ [c] ∧ c ∉ b := by
  obtain ⟨havoids, hlast⟩ := Bool.and_eq_true_iff.1 hc
  obtain ⟨s, rfl⟩ := List.getLast?_eq_some_iff.1 (beq_iff_eq.1 hlast)
  rw [List.dropLast_concat] at havoids
  obtain ⟨b, v, rfl, hb, hv⟩ := exists_append_of_fits h
  rw [@fits_ofWord_iff [c] v |>.1 hv]
  exact ⟨b, rfl, notMem_of_avoids havoids hb⟩

theorem eq_of_comparable {v : Text} {c : Char} (h : xs.all (closedBy c) = true)
    (hw : w ∈ words xs) (hv : v ∈ words xs) (hcomp : Text.Comparable w v) : w = v := by
  have key {w v : Text} (hw : w ∈ words xs) (hv : v ∈ words xs) (hpre : w <+: v) :
      w = v := by
    obtain ⟨s, hs, hw⟩ := hw
    obtain ⟨t, ht, hv⟩ := hv
    obtain ⟨a, rfl, -⟩ := hw.exists_closed (List.all_eq_true.1 h s hs)
    obtain ⟨b, rfl, hb⟩ := hv.exists_closed (List.all_eq_true.1 h t ht)
    rcases List.prefix_concat_iff.1 hpre with heq | hpre
    · exact heq
    · exact absurd (hpre.subset (List.mem_append_right a (List.mem_singleton_self c))) hb
  rcases hcomp with hpre | hpre
  · exact key hw hv hpre
  · exact (key hv hw hpre).symm

end Shape

/-! ## Deletions -/

namespace Pattern.Rewrites

open Text (Spread Free interrupted interruptions)

variable {p : Pattern} {W : Set Text} {s t w : Text}

theorem exists_spread (h : Rewrites p (fun _ ↦ []) s t) (hw : w <+: t) :
    ∃ v, Spread p.words w v ∧ v <+: s := by
  cases w with
  | nil => exact ⟨[], .done, List.nil_prefix⟩
  | cons d w =>
    induction h generalizing d w with
    | done => cases List.prefix_nil.1 hw
    | @keep c b b' _ _ ih =>
      obtain ⟨rfl, hwb⟩ := List.cons_prefix_cons.1 hw
      cases w with
      | nil => exact ⟨[d], .next .done, List.cons_prefix_cons.2 ⟨rfl, List.nil_prefix⟩⟩
      | cons e w =>
        obtain ⟨v, hv, hpre⟩ := ih e w hwb
        exact ⟨d :: v, .next hv, List.cons_prefix_cons.2 ⟨rfl, hpre⟩⟩
    | @found m b b' hm _ ih =>
      obtain ⟨v, hv, hpre⟩ := ih d w hw
      exact ⟨m.text ++ v, .piece ⟨_, hm⟩ hv, (List.prefix_append_right_inj m.text).2 hpre⟩

theorem exists_kept_or_interrupted (h : Rewrites p (fun _ ↦ []) s t) (hne : [] ∉ W)
    (ht : Text.Occurs W t) : ∃ w ∈ W, ∃ b, b <:+ s ∧ (∀ x ∈ p.words, ¬ x <+: b) ∧
      (w <+: b ∨ ∃ v ∈ interrupted p.words w, v <+: b) := by
  obtain ⟨w, hw, c, b, b', hb, hc, h', hpre⟩ :=
    h.exists_kept_beginning (fun _ _ ↦ Set.mem_singleton []) (Text.outside_singleton_nil W) hne ht
  refine ⟨w, hw, c :: b, hb, hc, ?_⟩
  rcases List.prefix_cons_iff.1 hpre with rfl | ⟨w, rfl, hwb⟩
  · exact absurd hw hne
  · obtain ⟨v, hv, hvb⟩ := h'.exists_spread hwb
    by_cases hvw : v = w
    · exact .inl (List.cons_prefix_cons.2 ⟨rfl, hvw ▸ hvb⟩)
    · exact .inr ⟨c :: v, ⟨c, w, v, rfl, rfl, hv, hvw⟩, List.cons_prefix_cons.2 ⟨rfl, hvb⟩⟩

theorem occurs_or_interrupted (h : Rewrites p (fun _ ↦ []) s t) (hne : w ≠ [])
    (ht : w <:+: t) : w <:+: s ∨ Text.Occurs (interrupted p.words w) s := by
  obtain ⟨_, rfl, b, hb, -, hpre | ⟨v, hv, hpre⟩⟩ :=
    h.exists_kept_or_interrupted (W := {w}) (mt Set.mem_singleton_iff.1 hne.symm) ⟨w, rfl, ht⟩
  · exact .inl (hpre.isInfix.trans hb.isInfix)
  · exact .inr ⟨v, hv, hpre.isInfix.trans hb.isInfix⟩

theorem prefix_of_spread {v z : Text} (hv : Spread p.words w v) (hfree : Free p.words w)
    (hends : ∀ x ∈ p.words, ∀ y ∈ p.words, Text.Comparable x y → x = y)
    (h : Rewrites p (fun _ ↦ []) (v ++ z) t) : w <+: t := by
  induction hv generalizing t with
  | done => exact List.nil_prefix
  | @next c w v hv ih =>
    generalize hs : c :: v ++ z = s at h
    cases h with
    | done => cases hs
    | keep _ h =>
      rw [List.cons_append, List.cons.injEq] at hs
      obtain ⟨rfl, rfl⟩ := hs
      exact List.cons_prefix_cons.2 ⟨rfl, ih hfree.tail h⟩
    | found hm _ =>
      -- no match begins with a character of the word
      exact absurd (Text.comparable_of_append_eq hs) (hv.not_comparable hfree ⟨_, hm⟩)
  | @piece c x w v hx _ ih =>
    rw [List.append_assoc] at h
    generalize hs : x ++ (v ++ z) = s at h
    cases h with
    | done =>
      obtain ⟨rfl, hvz⟩ := List.append_eq_nil_iff.1 hs
      refine ih hfree ?_
      rw [hvz]
      exact .done
    | keep hc _ => exact absurd ⟨v ++ z, hs⟩ (hc x hx)
    | found hm h =>
      -- the match that begins where the piece does is the piece
      obtain rfl := hends x hx _ ⟨_, hm⟩ (Text.comparable_of_append_eq hs)
      obtain rfl := List.append_cancel_left hs
      exact ih hfree h

theorem infix_of_interrupted (h : Rewrites p (fun _ ↦ []) s t) (hfree : Free p.words w.tail)
    (hends : ∀ x ∈ p.words, ∀ y ∈ p.words, Text.Comparable x y → x = y)
    (hout : Text.Outside (interrupted p.words w) p.words)
    (hs : Text.Occurs (interrupted p.words w) s) : w <:+: t := by
  induction h with
  | done =>
    obtain ⟨v, hv, hin⟩ := hs
    exact absurd (List.infix_nil.1 hin) (Text.ne_nil_of_mem_interrupted hv)
  | @keep c b b' _ h ih =>
    obtain ⟨v, hv, hin⟩ := hs
    rcases List.infix_cons_iff.1 hin with hpre | hin
    · obtain ⟨d, w, v, rfl, rfl, hspread, -⟩ := hv
      obtain ⟨rfl, z, rfl⟩ := List.cons_prefix_cons.1 hpre
      have hbegin : w <+: b' := prefix_of_spread hspread hfree hends h
      exact (List.cons_prefix_cons.2 ⟨rfl, hbegin⟩).isInfix
    · exact (ih ⟨v, hv, hin⟩).trans (List.suffix_cons c b').isInfix
  | @found m b b' hm _ ih =>
    exact ih (hout.occurs_of_append ⟨_, hm⟩ hs)

/-- **After a deletion** a word that was not there before occurs exactly if it was interrupted. -/
theorem occurs_iff_interrupted (h : Rewrites p (fun _ ↦ []) s t) (hne : w ≠ []) (hs : ¬ w <:+: s)
    (hfirst : ∀ c ∈ w, ∀ x ∈ p.words, ¬ Text.Comparable [c] x)
    (hends : ∀ x ∈ p.words, ∀ y ∈ p.words, Text.Comparable x y → x = y)
    (hout : Text.Outside (interrupted p.words w) p.words) :
    w <:+: t ↔ Text.Occurs (interrupted p.words w) s :=
  ⟨fun ht ↦ (h.occurs_or_interrupted hne ht).resolve_left hs,
    h.infix_of_interrupted
      (Text.free_of_forall_mem fun c hc ↦ hfirst c (List.mem_of_mem_tail hc)) hends hout⟩

/-- **What is deleted comes back** exactly where it was interrupted. A match that is left, or a word
that is apart from the matches, was interrupted, or it is such a word and was there before. -/
theorem occurs_iff_interruptions (h : Rewrites p (fun _ ↦ []) s t) (hne : [] ∉ p.words ∪ W)
    (hapart : Text.Apart W p.words) (hfree : ∀ w ∈ p.words ∪ W, Free p.words w.tail)
    (hends : ∀ x ∈ p.words, ∀ y ∈ p.words, Text.Comparable x y → x = y)
    (hout : Text.Outside (interruptions p.words (p.words ∪ W)) p.words) :
    Text.Occurs (p.words ∪ W) t ↔
      Text.Occurs W s ∨ Text.Occurs (interruptions p.words (p.words ∪ W)) s := by
  constructor
  · intro ht
    obtain ⟨w, hw, b, hb, hc, hpre | ⟨v, hv, hpre⟩⟩ := h.exists_kept_or_interrupted hne ht
    · have hwW : w ∈ W := hw.resolve_left fun hw ↦ hc w hw hpre
      exact .inl ⟨w, hwW, hpre.isInfix.trans hb.isInfix⟩
    · exact .inr ⟨v, ⟨w, hw, hv⟩, hpre.isInfix.trans hb.isInfix⟩
  · rintro (hs | ⟨v, ⟨w, hw, hv⟩, hin⟩)
    · obtain ⟨w, hw, hin⟩ := h.occurs_of_apart hapart hs
      exact ⟨w, .inr hw, hin⟩
    · exact ⟨w, hw, h.infix_of_interrupted (hfree w hw) hends
        (fun _ hu ↦ hout ⟨w, hw, hu⟩) ⟨v, hv, hin⟩⟩

end Pattern.Rewrites

end ShaderDowngrade

import ShaderDowngrade.Proofs.Pattern.Language
import ShaderDowngrade.Proofs.Text.Apart
import ShaderDowngrade.Text.CodeRanges

/-!
# Shapes of words

A shape is a row of places, each of which takes one character, or a run of characters, from given
ranges of code points. Every expression has a finite list of shapes that covers its words
(`Expr.exists_fits_of_spells`), and for shapes the question whether two words can overlap is
decided by walking through both rows at once.

Main statement: `Shape.apart_words`, a check on two lists of shapes that passes shows that the words
they cover are apart in every text.

## One check for every pair

The rules of the chain put in and take out a dozen kinds of pieces, and as many kinds of words are
looked for afterwards. That a piece can neither complete nor break a word in surroundings nobody has
thought of is a statement about all texts; the check brings it down to a computation on two rows of
ranges. Shapes may cover too much, never too little, so a check that passes can be trusted.
-/

namespace ShaderDowngrade

/-- A place in a shape. -/
structure Slot where
  /-- The characters that may stand there. -/
  ranges : CodeRanges
  /-- Whether a run of such characters may stand there, and not only one. -/
  many : Bool
deriving DecidableEq, Repr

/-- A row of places. -/
abbrev Shape := List Slot

namespace Shape

/-- The word fits into the places of the shape. -/
inductive Fits : Shape → Text → Prop
  | done : Fits [] []
  | next {k : Slot} {ks : Shape} {c : Char} {w : Text} (hc : k.ranges.holds c = true)
      (hw : Fits ks w) : Fits (k :: ks) (c :: w)
  /-- The run at the first place goes on. -/
  | stay {k : Slot} {ks : Shape} {c : Char} {w : Text} (hk : k.many = true)
      (hc : k.ranges.holds c = true) (hw : Fits (k :: ks) w) : Fits (k :: ks) (c :: w)

/-- The words that some of the shapes cover. -/
def words (shapes : List Shape) : Set Text := {w | ∃ s ∈ shapes, s.Fits w}

theorem words_nil : words [] = ∅ := by
  simp [words]

/-- The places for one word. -/
def ofWord (w : Text) : Shape := w.map fun c ↦ ⟨[(c.toNat, c.toNat)], false⟩

/-- The shapes of the first list, each followed by one of the second. -/
def joined (ss ts : List Shape) : List Shape := ss.flatMap fun s ↦ ts.map (s ++ ·)

theorem Fits.ne_nil {s : Shape} {w : Text} (h : s.Fits w) (hw : w ≠ []) : s ≠ [] := by
  rintro rfl
  cases h
  exact hw rfl

theorem Fits.append {s t : Shape} {w v : Text} (hw : s.Fits w) (hv : t.Fits v) :
    Fits (s ++ t) (w ++ v) := by
  induction hw with
  | done => exact hv
  | next hc _ ih => exact .next hc ih
  | stay hk hc _ ih => exact .stay hk hc ih

theorem exists_append_of_fits {s t : Shape} {w : Text} (h : Fits (s ++ t) w) :
    ∃ u v, w = u ++ v ∧ s.Fits u ∧ t.Fits v := by
  generalize hst : s ++ t = r at h
  induction h generalizing s with
  | done =>
    obtain ⟨rfl, rfl⟩ := List.append_eq_nil_iff.1 hst
    exact ⟨[], [], rfl, .done, .done⟩
  | @next k ks c w hc h ih =>
    cases s with
    | nil =>
      obtain rfl : t = k :: ks := hst
      exact ⟨[], c :: w, rfl, .done, .next hc h⟩
    | cons l s =>
      rw [List.cons_append, List.cons.injEq] at hst
      obtain ⟨rfl, hst⟩ := hst
      obtain ⟨u, v, rfl, hu, hv⟩ := ih hst
      exact ⟨c :: u, v, rfl, .next hc hu, hv⟩
  | @stay k ks c w hk hc h ih =>
    cases s with
    | nil =>
      obtain rfl : t = k :: ks := hst
      exact ⟨[], c :: w, rfl, .done, .stay hk hc h⟩
    | cons l s =>
      obtain ⟨rfl, -⟩ := List.cons.inj hst
      obtain ⟨u, v, rfl, hu, hv⟩ := ih hst
      exact ⟨c :: u, v, rfl, .stay hk hc hu, hv⟩

theorem image2_append_words_subset (ss ts : List Shape) :
    Set.image2 (· ++ ·) (words ss) (words ts) ⊆ words (joined ss ts) := by
  rintro _ ⟨w, ⟨s, hs, hw⟩, v, ⟨t, ht, hv⟩, rfl⟩
  exact ⟨s ++ t, List.mem_flatMap.2 ⟨s, hs, List.mem_map_of_mem ht⟩, hw.append hv⟩

theorem append_mem_words {ss ts : List Shape} {w v : Text} (hw : w ∈ words ss)
    (hv : v ∈ words ts) : w ++ v ∈ words (joined ss ts) :=
  image2_append_words_subset ss ts (Set.mem_image2_of_mem hw hv)

theorem words_joined (ss ts : List Shape) :
    words (joined ss ts) = Set.image2 (· ++ ·) (words ss) (words ts) := by
  refine Set.Subset.antisymm ?_ (image2_append_words_subset ss ts)
  rintro w ⟨_, hst, hw⟩
  obtain ⟨s, hs, hst⟩ := List.mem_flatMap.1 hst
  obtain ⟨t, ht, rfl⟩ := List.mem_map.1 hst
  obtain ⟨u, v, rfl, hu, hv⟩ := exists_append_of_fits hw
  exact Set.mem_image2_of_mem ⟨s, hs, hu⟩ ⟨t, ht, hv⟩

theorem fits_ofWord_iff {w v : Text} : (ofWord w).Fits v ↔ v = w := by
  constructor
  · intro h
    induction w generalizing v with
    | nil =>
      cases h
      rfl
    | cons c cs ih =>
      cases h with
      | @next _ _ d v hd h =>
        obtain rfl : d = c := by
          simp only [CodeRanges.holds, List.any_cons, List.any_nil, Bool.or_false,
            Bool.and_eq_true, decide_eq_true_eq] at hd
          exact Char.toNat_inj.1 (Nat.le_antisymm hd.2 hd.1)
        rw [ih h]
      | stay hk _ _ => cases hk
  · rintro rfl
    induction v with
    | nil => exact .done
    | cons c cs ih => exact .next (CodeRanges.holds_of_mem List.mem_cons_self ⟨le_rfl, le_rfl⟩) ih

@[simp] theorem words_ofWord (w : Text) : words [ofWord w] = {w} := by
  ext v
  simp [words, fits_ofWord_iff]

theorem mem_words_of_mem {w : Text} {ss : List Shape} (h : ofWord w ∈ ss) : w ∈ words ss :=
  ⟨_, h, fits_ofWord_iff.2 rfl⟩

theorem fits_many_iff {ranges : CodeRanges} {w : Text} :
    Fits [⟨ranges, true⟩] w ↔ w ≠ [] ∧ ∀ c ∈ w, ranges.holds c = true := by
  constructor
  · intro h
    generalize hs : [(⟨ranges, true⟩ : Slot)] = s at h
    induction h with
    | done => cases hs
    | next hc h _ =>
      obtain ⟨rfl, rfl⟩ := List.cons.inj hs
      cases h
      simpa using hc
    | stay _ hc _ ih =>
      obtain ⟨rfl, -⟩ := List.cons.inj hs
      exact ⟨List.cons_ne_nil _ _, List.forall_mem_cons.2 ⟨hc, (ih hs).2⟩⟩
  · rintro ⟨hne, hw⟩
    induction w with
    | nil => exact absurd rfl hne
    | cons c cs ih =>
      have hc := hw c List.mem_cons_self
      by_cases hcs : cs = []
      · subst hcs
        exact .next hc .done
      · exact .stay rfl hc (ih hcs fun d hd ↦ hw d (List.mem_cons_of_mem c hd))

/-! ## Beginning at the same place -/

end Shape

namespace CodeRanges

/-- Whether some code point lies in both tables. -/
def meets (s t : CodeRanges) : Bool := s.any fun a ↦ t.any fun b ↦ a.1 ≤ b.2 && b.1 ≤ a.2

theorem meets_of_holds {s t : CodeRanges} {c : Char} (hs : s.holds c = true)
    (ht : t.holds c = true) : meets s t = true := by
  obtain ⟨a, ha, hac⟩ := holds_iff.1 hs
  obtain ⟨b, hb, hbc⟩ := holds_iff.1 ht
  simp only [meets, List.any_eq_true, Bool.and_eq_true, decide_eq_true_eq]
  exact ⟨a, ha, b, hb, by omega, by omega⟩

end CodeRanges

namespace Shape

/-- Walks through the first place `k` of one shape and all of another; `later` is the walk from the
places behind `k`. -/
def meetsFrom (k : Slot) (later : Shape → Bool) : Shape → Bool
  | [] => true
  | l :: ls => k.ranges.meets l.ranges &&
      (later ls || (k.many && meetsFrom k later ls) || (l.many && later (l :: ls)))

/-- Whether a word of one shape and a word of the other can begin at the same place. -/
def meets : Shape → Shape → Bool
  | [] => fun _ ↦ true
  | k :: ks => meetsFrom k (meets ks)

theorem meets_cons_cons (k l : Slot) (ks ls : Shape) :
    meets (k :: ks) (l :: ls) = (k.ranges.meets l.ranges &&
      (meets ks ls || (k.many && meets (k :: ks) ls) || (l.many && meets ks (l :: ls)))) := rfl

theorem meets_nil (s : Shape) : meets s [] = true := by
  cases s <;> rfl

theorem meets_of_comparable {s t : Shape} {w v : Text} (hw : s.Fits w) (hv : t.Fits v)
    (h : Text.Comparable w v) : s.meets t = true := by
  induction hw generalizing t v with
  | done => rfl
  | @next k ks c w hc hw ih =>
    cases hv with
    | done => exact meets_nil _
    | @next l ls d v hd hv =>
      obtain ⟨rfl, hwv⟩ := Text.comparable_cons_cons.1 h
      simp [meets_cons_cons, CodeRanges.meets_of_holds hc hd, ih hv hwv]
    | @stay l ls d v hl hd hv =>
      obtain ⟨rfl, hwv⟩ := Text.comparable_cons_cons.1 h
      simp [meets_cons_cons, CodeRanges.meets_of_holds hc hd, hl, ih hv hwv]
  | @stay k ks c w hk hc hw ih =>
    cases hv with
    | done => exact meets_nil _
    | @next l ls d v hd hv =>
      obtain ⟨rfl, hwv⟩ := Text.comparable_cons_cons.1 h
      simp [meets_cons_cons, CodeRanges.meets_of_holds hc hd, hk, ih hv hwv]
    | @stay l ls d v hl hd hv =>
      -- both runs go on, so the places are the same as before
      obtain ⟨rfl, hwv⟩ := Text.comparable_cons_cons.1 h
      exact ih hv hwv

/-! ## Beginning inside one another -/

/-- What is left of a word of the shape from some character on. -/
def tails : Shape → List Shape
  | [] => []
  | k :: ks => (k :: ks) :: tails ks

theorem exists_mem_tails {s : Shape} {p q : Text} (h : s.Fits (p ++ q)) (hq : q ≠ []) :
    ∃ r ∈ s.tails, r.Fits q := by
  generalize hw : p ++ q = w at h
  induction h generalizing p with
  | done => exact absurd (List.append_eq_nil_iff.1 hw).2 hq
  | @next k ks c w hc h ih =>
    by_cases hp : p = []
    · subst hp
      obtain rfl : q = c :: w := hw
      exact ⟨k :: ks, List.mem_cons_self, .next hc h⟩
    · obtain ⟨d, p, rfl⟩ := List.exists_cons_of_ne_nil hp
      obtain ⟨r, hr, hrq⟩ := ih (List.cons.inj hw).2
      exact ⟨r, List.mem_cons_of_mem (k :: ks) hr, hrq⟩
  | @stay k ks c w hk hc h ih =>
    by_cases hp : p = []
    · subst hp
      obtain rfl : q = c :: w := hw
      exact ⟨k :: ks, List.mem_cons_self, .stay hk hc h⟩
    · obtain ⟨d, p, rfl⟩ := List.exists_cons_of_ne_nil hp
      exact ih (List.cons.inj hw).2

/-- What a word of the shape begins with up to a cut, where the shape of what stands behind the cut
passes the test. -/
def beginnings (test : Shape → Bool) : Shape → List Shape
  | [] => []
  | k :: ks => (if k.many && test (k :: ks) || !ks.isEmpty && test ks then [[k]] else []) ++
      (beginnings test ks).map (k :: ·)

theorem exists_cons_of_mem_beginnings {test : Shape → Bool} {k : Slot} {ks b : Shape}
    (h : b ∈ beginnings test (k :: ks)) : ∃ more, b = k :: more := by
  rcases List.mem_append.1 h with h | h
  · split at h
    · exact ⟨[], List.mem_singleton.1 h⟩
    · cases h
  · obtain ⟨more, -, rfl⟩ := List.mem_map.1 h
    exact ⟨more, rfl⟩

theorem mem_words_beginnings {test : Shape → Bool} {s : Shape} {p q : Text}
    (h : s.Fits (p ++ q)) (hp : p ≠ []) (hq : q ≠ [])
    (htest : ∀ r : Shape, r.Fits q → test r = true) : p ∈ words (beginnings test s) := by
  generalize hw : p ++ q = w at h
  induction h generalizing p with
  | done => exact absurd (List.append_eq_nil_iff.1 hw).1 hp
  | @next k ks c w hc h ih =>
    obtain ⟨d, p, rfl⟩ := List.exists_cons_of_ne_nil hp
    obtain ⟨rfl, hpq⟩ := List.cons.inj hw
    by_cases hnil : p = []
    · subst hnil
      obtain rfl : q = w := hpq
      exact ⟨[k], by simp [beginnings, htest ks h, h.ne_nil hq], .next hc .done⟩
    · obtain ⟨b, hb, hfits⟩ := ih hnil hpq
      exact ⟨k :: b, List.mem_append_right _ (List.mem_map_of_mem hb), .next hc hfits⟩
  | @stay k ks c w hk hc h ih =>
    obtain ⟨d, p, rfl⟩ := List.exists_cons_of_ne_nil hp
    obtain ⟨rfl, hpq⟩ := List.cons.inj hw
    by_cases hnil : p = []
    · subst hnil
      obtain rfl : q = w := hpq
      exact ⟨[k], by simp [beginnings, hk, htest _ h], .next hc .done⟩
    · obtain ⟨b, hb, hfits⟩ := ih hnil hpq
      obtain ⟨more, rfl⟩ := exists_cons_of_mem_beginnings hb
      -- the run goes on in `p` and ends in the place `k` that the beginning has already
      exact ⟨k :: more, hb, .stay hk hc hfits⟩

/-! ## The checks -/

/-- No word of the first shapes and word of the second can begin at the same place. -/
def separate (ss ts : List Shape) : Bool := ss.all fun s ↦ ts.all fun t ↦ !s.meets t

theorem not_comparable_of_separate {ss ts : List Shape} (h : separate ss ts = true) {s t : Shape}
    {w v : Text} (hs : s ∈ ss) (ht : t ∈ ts) (hw : s.Fits w) (hv : t.Fits v) :
    ¬ Text.Comparable w v := by
  intro hc
  have := List.all_eq_true.1 (List.all_eq_true.1 h s hs) t ht
  rw [meets_of_comparable hw hv hc] at this
  cases this

/-- Shapes of the stubs with which words of the first shapes reach into words of the second. -/
def stubs (ss ts : List Shape) : List Shape :=
  ss.flatMap (beginnings fun r ↦ ts.any r.meets)

/-- No word of the first shapes can begin in a word of the second. -/
def outside (ss ts : List Shape) : Bool := separate (ts.flatMap tails) ss

/-- No word of the first shapes can begin in a word of the second, nor before it and reach into
it. -/
def apart (ss ts : List Shape) : Bool := (stubs ss ts).isEmpty && outside ss ts

theorem reachesBy_stubs (ss ts : List Shape) :
    Text.ReachesBy (words (stubs ss ts)) (words ss) (words ts) := by
  rintro w ⟨s, hs, hw⟩ x ⟨t, ht, hx⟩ p q rfl hp hq hcomp
  obtain ⟨b, hb, hfits⟩ := mem_words_beginnings hw hp hq fun r hr ↦
    List.any_eq_true.2 ⟨t, ht, meets_of_comparable hr hx hcomp⟩
  exact ⟨b, List.mem_flatMap.2 ⟨s, hs, hb⟩, hfits⟩

theorem outside_words {ss ts : List Shape} (h : outside ss ts = true) :
    Text.Outside (words ss) (words ts) := by
  rintro w ⟨s, hs, hw⟩ x ⟨t, ht, hx⟩ p q rfl hq
  obtain ⟨r, hr, hrq⟩ := exists_mem_tails hx hq
  exact not_comparable_of_separate h (List.mem_flatMap.2 ⟨t, ht, hr⟩) hs hrq hw

theorem reachesBy_of_stubs_eq_nil {ss ts : List Shape} (h : stubs ss ts = []) :
    Text.ReachesBy ∅ (words ss) (words ts) := by
  have := reachesBy_stubs ss ts
  rwa [h, words_nil] at this

theorem reachesBy_words {ss ts : List Shape} (h : apart ss ts = true) :
    Text.ReachesBy ∅ (words ss) (words ts) :=
  reachesBy_of_stubs_eq_nil (List.isEmpty_iff.1 (Bool.and_eq_true_iff.1 h).1)

theorem apart_words {ss ts : List Shape} (h : apart ss ts = true) :
    Text.Apart (words ss) (words ts) :=
  Text.apart_of_reachesBy (reachesBy_words h) (outside_words (Bool.and_eq_true_iff.1 h).2)

theorem words_subset_words {ss ts : List Shape} (h : ss ⊆ ts) : words ss ⊆ words ts :=
  fun _ ⟨s, hs, hw⟩ ↦ ⟨s, h hs, hw⟩

/-! ## Single characters -/

/-- The character has no place in the shape. -/
def avoids (c : Char) (s : Shape) : Bool := s.all fun k ↦ !k.ranges.holds c

/-- The shape ends in a place for other characters. -/
def endsWithout (c : Char) (s : Shape) : Bool := s.getLast?.any fun k ↦ !k.ranges.holds c

theorem notMem_of_avoids {s : Shape} {w : Text} {c : Char} (h : s.avoids c = true)
    (hw : s.Fits w) : c ∉ w := by
  induction hw with
  | done => exact List.not_mem_nil
  | @next k ks d w hd _ ih =>
    obtain ⟨hk, hks⟩ := Bool.and_eq_true_iff.1 (List.all_cons.symm.trans h)
    intro hmem
    rcases List.mem_cons.1 hmem with rfl | hmem
    · simp [hd] at hk
    · exact ih hks hmem
  | @stay k ks d w _ hd _ ih =>
    obtain ⟨hk, -⟩ := Bool.and_eq_true_iff.1 (List.all_cons.symm.trans h)
    intro hmem
    rcases List.mem_cons.1 hmem with rfl | hmem
    · simp [hd] at hk
    · exact ih h hmem

theorem Fits.getLast? {s : Shape} {w : Text} {k : Slot} (hw : s.Fits w) (hk : s.getLast? = some k) :
    ∃ d, k.ranges.holds d = true ∧ w.getLast? = some d := by
  induction hw with
  | done => cases hk
  | @next l ls c w hc hw ih =>
    cases ls with
    | nil =>
      cases hw
      obtain rfl : l = k := by simpa using hk
      exact ⟨c, hc, rfl⟩
    | cons m ms =>
      obtain ⟨d, hd, hlast⟩ := ih (by simpa using hk)
      exact ⟨d, hd, by simp [List.getLast?_cons, hlast]⟩
  | @stay l ls c w _ _ _ ih =>
    obtain ⟨d, hd, hlast⟩ := ih hk
    exact ⟨d, hd, by simp [List.getLast?_cons, hlast]⟩

theorem exists_getLast?_of_endsWithout {s : Shape} {w : Text} {c : Char}
    (h : s.endsWithout c = true) (hw : s.Fits w) : ∃ d ≠ c, w.getLast? = some d := by
  rw [endsWithout, Option.any_eq_true] at h
  obtain ⟨k, hk, hc⟩ := h
  obtain ⟨d, hd, hlast⟩ := hw.getLast? hk
  refine ⟨d, ?_, hlast⟩
  rintro rfl
  simp [hd] at hc

end Shape

/-! ## Shapes of expressions -/

/-- All code points. -/
def CodeRanges.everything : CodeRanges := [(0, 0x10ffff)]

theorem CodeRanges.holds_everything (c : Char) : CodeRanges.everything.holds c = true := by
  refine holds_of_mem List.mem_cons_self ⟨Nat.zero_le _, ?_⟩
  have : c.toNat.isValidChar := c.valid
  rcases this with h | ⟨-, h⟩ <;> omega

/-- The blank characters. -/
def Blank.ranges : CodeRanges :=
  [(0x09, 0x0d), (0x1c, 0x20), (0x85, 0x85), (0xa0, 0xa0), (0x1680, 0x1680), (0x2000, 0x200a),
    (0x2028, 0x2029), (0x202f, 0x202f), (0x205f, 0x205f), (0x3000, 0x3000)]

theorem Blank.holds_ranges_iff {c : Char} : ranges.holds c = true ↔ isBlank c = true := by
  simp only [isBlank, isWhiteSpace, ranges, CodeRanges.holds, List.any_cons, List.any_nil,
    Bool.or_false, Bool.or_eq_true, Bool.and_eq_true, decide_eq_true_eq, beq_iff_eq]
  omega

/-- Ranges that hold all characters that the item admits. -/
def ClassItem.ranges : ClassItem → CodeRanges
  | .range first last => [(first.toNat, last.toNat)]
  | .digit | .word => .everything
  | .blank => Blank.ranges

/-- Ranges that hold all characters that pass the test. -/
def CharTest.ranges : CharTest → CodeRanges
  | .exactly c => [(c.toNat, c.toNat)]
  | .oneOf items => items.flatMap ClassItem.ranges
  | .notNewline | .noneOf _ => .everything

theorem ClassItem.holds_ranges {item : ClassItem} {c : Char} (h : item.admits c = true) :
    item.ranges.holds c = true := by
  cases item with
  | range first last =>
    refine CodeRanges.holds_of_mem List.mem_cons_self ?_
    simpa [admits] using h
  | digit | word => exact CodeRanges.holds_everything c
  | blank => exact Blank.holds_ranges_iff.2 h

theorem CharTest.holds_ranges {test : CharTest} {c : Char} (h : test.admits c = true) :
    test.ranges.holds c = true := by
  cases test with
  | exactly d =>
    obtain rfl : c = d := by simpa [admits] using h
    exact CodeRanges.holds_of_mem List.mem_cons_self ⟨le_rfl, le_rfl⟩
  | oneOf items =>
    obtain ⟨item, hitem, hc⟩ := List.any_eq_true.1 h
    obtain ⟨r, hr, hrc⟩ := CodeRanges.holds_iff.1 (ClassItem.holds_ranges hc)
    exact CodeRanges.holds_of_mem (List.mem_flatMap.2 ⟨item, hitem, hr⟩) hrc
  | notNewline | noneOf items => exact CodeRanges.holds_everything c

namespace Expr

/-- Shapes that cover all words of the expression. Repetitions other than of a single character are
covered by all texts. -/
def shapes : Expr → List Shape
  | .empty | .start | .finish => [[]]
  | .ahead .. => [[]]
  | .one test => [[⟨test.ranges, false⟩]]
  | .group _ body => body.shapes
  | .seq first second => Shape.joined first.shapes second.shapes
  | .alt first second => first.shapes ++ second.shapes
  | .rep 0 _ _ (.one test) => [[], [⟨test.ranges, true⟩]]
  | .rep (_ + 1) _ _ (.one test) => [[⟨test.ranges, true⟩]]
  | .rep .. => [[], [⟨.everything, true⟩]]

theorem exists_fits_of_spells {e : Expr} {w : Text} {g : List (Nat × Text)} (h : e.Spells w g) :
    ∃ s ∈ e.shapes, s.Fits w := by
  induction e generalizing w g with
  | empty | start | finish =>
    obtain ⟨rfl, -⟩ := h
    exact ⟨[], List.mem_cons_self, .done⟩
  | ahead wanted body _ =>
    obtain rfl : w = [] := h
    exact ⟨[], List.mem_cons_self, .done⟩
  | one test =>
    obtain ⟨c, hc, rfl, -⟩ := h
    exact ⟨_, List.mem_cons_self, .next (CharTest.holds_ranges hc) .done⟩
  | group index body ih =>
    obtain ⟨g', h, -⟩ := h
    exact ih h
  | seq first second ih ih' =>
    obtain ⟨w₁, g₁, w₂, g₂, h₁, h₂, rfl, -⟩ := h
    exact Shape.append_mem_words (ih h₁) (ih' h₂)
  | alt first second ih ih' =>
    rcases h with h | h
    · obtain ⟨s, hs, hw⟩ := ih h
      exact ⟨s, List.mem_append_left _ hs, hw⟩
    · obtain ⟨s, hs, hw⟩ := ih' h
      exact ⟨s, List.mem_append_right _ hs, hw⟩
  | rep least most greedy body _ =>
    by_cases hone : ∃ test, body = .one test
    · obtain ⟨test, rfl⟩ := hone
      obtain ⟨hleast, -, hall, -⟩ := spells_rep_one.1 h
      have hmany (hne : w ≠ []) : Shape.Fits [⟨test.ranges, true⟩] w :=
        Shape.fits_many_iff.2 ⟨hne, fun c hc ↦ CharTest.holds_ranges (hall c hc)⟩
      by_cases hne : w = []
      · subst hne
        obtain rfl := Nat.le_zero.1 hleast
        exact ⟨[], List.mem_cons_self, .done⟩
      · cases least with
        | zero => exact ⟨_, List.mem_cons_of_mem _ List.mem_cons_self, hmany hne⟩
        | succ least => exact ⟨_, List.mem_cons_self, hmany hne⟩
    · -- a repetition of anything else is covered by all texts
      have hshapes : (rep least most greedy body).shapes = [[], [⟨.everything, true⟩]] := by
        cases least <;> cases body <;> first | rfl | exact absurd ⟨_, rfl⟩ hone
      rw [hshapes]
      by_cases hne : w = []
      · subst hne
        exact ⟨[], List.mem_cons_self, .done⟩
      · exact ⟨_, List.mem_cons_of_mem _ List.mem_cons_self,
          Shape.fits_many_iff.2 ⟨hne, fun c _ ↦ CodeRanges.holds_everything c⟩⟩

theorem language_subset (e : Expr) : e.language ⊆ Shape.words e.shapes :=
  fun _ ⟨_, h⟩ ↦ exists_fits_of_spells h

end Expr

/-- Shapes that cover all words of the pattern. -/
def Pattern.shapes (p : Pattern) : List Shape := p.expr.shapes

theorem Pattern.words_subset (p : Pattern) : p.words ⊆ Shape.words p.shapes :=
  p.expr.language_subset

end ShaderDowngrade

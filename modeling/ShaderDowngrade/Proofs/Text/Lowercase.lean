import ShaderDowngrade.Text.Lowercase

/-!
# Lower case and the Latin alphabet

Writing a text in lower case folds the letters from `A` to `Z` and leaves other ASCII characters as
they are. No other character becomes an ASCII character, with one exception: the sign of the kelvin
becomes a `k`. A capital I with a dot becomes an `i`, but the dot stays behind it.

So a word of ASCII characters other than `k` is the lower case of a text exactly if the text is the
word up to the case of its ASCII letters.

Main statement: `Text.lowercase_eq_iff`.
-/

namespace ShaderDowngrade

namespace CaseRun

variable {r : CaseRun} {c : Char}

/-- The run of the Latin alphabet. -/
def latin : CaseRun := ⟨0x41, 0x5a, 1, 0x61⟩

/-- The sign of the kelvin, which is written like a letter. -/
def kelvin : CaseRun := ⟨0x212a, 0x212a, 1, 0x6b⟩

/-- The run is one of letters, large and small, none of which is an ASCII character. -/
def Distant (r : CaseRun) : Bool :=
  0x80 ≤ r.first && 0x80 ≤ r.small && (r.small + (r.last - r.first) < 0xd800 ||
    0xdfff < r.small && r.small + (r.last - r.first) < 0x110000)

theorem table_eq : table = latin :: table.tail := rfl

theorem distant_or_kelvin : ∀ r ∈ table.tail, r.Distant = true ∨ r = kelvin := by decide +kernel

theorem toNat_ofNat {n : Nat} (h : n.isValidChar) : (Char.ofNat n).toNat = n := by
  rw [Char.ofNat, dif_pos h]
  rfl

theorem le_of_holds (hr : r ∈ table.tail) (hc : r.holds c = true) : 0x80 ≤ c.toNat := by
  simp only [holds, Bool.and_eq_true, decide_eq_true_eq] at hc
  rcases distant_or_kelvin r hr with hdistant | rfl
  · simp only [Distant, Bool.and_eq_true, decide_eq_true_eq] at hdistant
    omega
  · have : (0x212a : Nat) ≤ c.toNat := hc.1.1
    omega

theorem le_lower (hr : r ∈ table.tail) (hc : r.holds c = true) :
    0x80 ≤ (r.lower c).toNat ∨ r.lower c = 'k' := by
  simp only [holds, Bool.and_eq_true, decide_eq_true_eq] at hc
  rcases distant_or_kelvin r hr with hdistant | rfl
  · simp only [Distant, Bool.and_eq_true, Bool.or_eq_true, decide_eq_true_eq] at hdistant
    have hvalid : (r.small + (c.toNat - r.first)).isValidChar := by
      rw [Nat.isValidChar]
      omega
    rw [lower, toNat_ofNat hvalid]
    omega
  · obtain ⟨⟨hfirst, hlast⟩, -⟩ := hc
    have hsame : c.toNat = 0x212a := Nat.le_antisymm hlast hfirst
    refine .inr ?_
    rw [lower, hsame]
    rfl

theorem holds_latin_iff : latin.holds c = true ↔ c.val ≥ 'A'.val ∧ c.val ≤ 'Z'.val := by
  have hstep : (c.toNat - latin.first) % latin.step = 0 := Nat.mod_one _
  simp only [holds, hstep, BEq.rfl, Bool.and_true, Bool.and_eq_true, decide_eq_true_eq]
  exact Iff.rfl

theorem lower_latin (hc : latin.holds c = true) : latin.lower c = c.toLower := by
  have hletter := holds_latin_iff.1 hc
  have hfirst : 0x41 ≤ c.toNat := hletter.1
  have hlast : c.toNat ≤ 0x5a := hletter.2
  have hvalid : (0x61 + (c.toNat - 0x41)).isValidChar := .inl (by omega)
  have hlower : c.toLower.toNat = c.toNat + 0x20 := by
    have hval : c.val.toNat ≤ 0x5a := hlast
    have hdistance : (0x20 : UInt32).toNat = 0x20 := rfl
    calc c.toLower.toNat = (c.val + 0x20).toNat := congrArg Char.toNat (dif_pos hletter)
      _ = c.val.toNat + 0x20 := by
        rw [UInt32.toNat_add, hdistance]
        omega
  rw [← Char.toNat_inj, hlower]
  change (Char.ofNat (0x61 + (c.toNat - 0x41))).toNat = _
  rw [toNat_ofNat hvalid]
  omega

theorem find?_of_latin (hc : latin.holds c = true) :
    table.find? (·.holds c) = some latin := by
  rw [table_eq]
  exact List.find?_cons_of_pos (p := fun r ↦ holds r c) hc

theorem find?_of_not_latin (hc : ¬ latin.holds c = true) :
    table.find? (·.holds c) = table.tail.find? (·.holds c) := by
  rw [table_eq]
  exact List.find?_cons_of_neg (p := fun r ↦ holds r c) hc

end CaseRun

namespace Text

variable {c : Char} {s t before behind : Text}

open CaseRun (latin table)

theorem toLower_of_not_latin (h : ¬ latin.holds c = true) : c.toLower = c :=
  dif_neg (mt CaseRun.holds_latin_iff.2 h)

theorem lowerAt_of_ascii (h : c.toNat < 0x80) : lowerAt before c behind = [c.toLower] := by
  have hsigma : c ≠ '\u03a3' := by
    rintro rfl
    exact absurd h (by decide)
  have hdotted : c ≠ '\u0130' := by
    rintro rfl
    exact absurd h (by decide)
  rw [lowerAt, if_neg hsigma, if_neg hdotted]
  by_cases hlatin : latin.holds c = true
  · rw [CaseRun.find?_of_latin hlatin, ← CaseRun.lower_latin hlatin]
  · have hnone : table.tail.find? (·.holds c) = none :=
      List.find?_eq_none.2 fun r hr hc ↦ Nat.not_lt.2 (CaseRun.le_of_holds hr hc) h
    rw [CaseRun.find?_of_not_latin hlatin, hnone, toLower_of_not_latin hlatin]

theorem exists_mem_lowerAt (h : 0x80 ≤ c.toNat) (before behind : Text) :
    ∃ d ∈ lowerAt before c behind, 0x80 ≤ d.toNat ∨ d = 'k' := by
  rw [lowerAt]
  split
  · refine ⟨_, List.mem_singleton_self _, .inl ?_⟩
    split <;> decide
  · split
    · exact ⟨'\u0307', by simp, .inl (by decide)⟩
    · split
      · rename_i r hr
        have hlatin : ¬ latin.holds c = true := fun hc ↦ by
          have : c.toNat ≤ 0x5a := (CaseRun.holds_latin_iff.1 hc).2
          omega
        rw [CaseRun.find?_of_not_latin hlatin] at hr
        have hholds : r.holds c = true := List.find?_some (p := fun r ↦ CaseRun.holds r c) hr
        exact ⟨_, List.mem_singleton_self _,
          CaseRun.le_lower (List.mem_of_find?_eq_some hr) hholds⟩
      · exact ⟨c, List.mem_singleton_self c, .inl h⟩

/-! ## Texts -/

theorem lowerFrom_of_ascii (h : ∀ c ∈ t, c.toNat < 0x80) :
    lowerFrom before t = t.map Char.toLower := by
  induction t generalizing before with
  | nil => rfl
  | cons c t ih =>
    rw [lowerFrom, lowerAt_of_ascii (h c List.mem_cons_self), List.map_cons,
      ih fun d hd ↦ h d (List.mem_cons_of_mem c hd), List.singleton_append]

theorem exists_mem_lowerFrom (hc : c ∈ t) (h : 0x80 ≤ c.toNat) (before : Text) :
    ∃ d ∈ lowerFrom before t, 0x80 ≤ d.toNat ∨ d = 'k' := by
  induction t generalizing before with
  | nil => cases hc
  | cons b t ih =>
    rw [lowerFrom]
    rcases List.mem_cons.1 hc with rfl | hc
    · obtain ⟨d, hd, hk⟩ := exists_mem_lowerAt h before t
      exact ⟨d, List.mem_append_left _ hd, hk⟩
    · obtain ⟨d, hd, hk⟩ := ih hc (b :: before)
      exact ⟨d, List.mem_append_right _ hd, hk⟩

/-- **Lower case and ASCII words.** A word of ASCII characters other than `k` is the lower case of a
text exactly if it is the text with its ASCII letters folded. -/
theorem lowercase_eq_iff (hs : ∀ c ∈ s, c.toNat < 0x80 ∧ c ≠ 'k') :
    lowercase t = s ↔ t.map Char.toLower = s := by
  by_cases hascii : ∀ c ∈ t, c.toNat < 0x80
  · rw [lowercase, lowerFrom_of_ascii hascii]
  · -- another character shows in either lower case
    simp only [Classical.not_forall, Nat.not_lt] at hascii
    obtain ⟨c, hc, hlarge⟩ := hascii
    refine iff_of_false ?_ ?_
    · rintro rfl
      obtain ⟨d, hd, hd'⟩ := exists_mem_lowerFrom hc hlarge []
      obtain ⟨hsmall, hk⟩ := hs d hd
      rcases hd' with hd' | hd'
      · omega
      · exact hk hd'
    · rintro rfl
      have hsame : c.toLower = c := toLower_of_not_latin fun hlatin ↦ by
        have : c.toNat ≤ 0x5a := (CaseRun.holds_latin_iff.1 hlatin).2
        omega
      have := (hs c (List.mem_map.2 ⟨c, hc, hsame⟩)).1
      omega

end Text

end ShaderDowngrade

import Mathlib.Data.Nat.Basic
import ShaderDowngrade.Text.Utf8

/-!
# Encoded texts

The bytes of a character are read as that character, whatever follows them. So the bytes of a text
are read as that text, and a text without carriage returns is also what a file with these bytes
holds.

Main statement: `Utf8.decode_encode`, the bytes of a text give the text back.

## How a character is read

The first byte tells how many bytes there are, and for some first bytes it bounds the second, so
that neither a form that is longer than it must be nor a surrogate is read. There is one lemma for
each number of bytes, about the bytes alone. That the bytes of a character are as these lemmas ask
is then a matter of arithmetic.
-/

namespace ShaderDowngrade.Utf8

theorem toNat_ofNat {n : Nat} (h : n < 0x100) : (UInt8.ofNat n).toNat = n :=
  UInt8.toNat_ofNat_of_lt' h

/-! ## The forms of a character -/

variable {a b c d : UInt8} {rest : List UInt8}

theorem decodeFrom_one (position : Nat) (h : a.toNat < 0x80) :
    decodeFrom position (a :: rest) =
      (decodeFrom (position + 1) rest).map (Char.ofNat a.toNat :: ·) := by
  rw [decodeFrom.eq_def]
  exact if_pos (UInt8.lt_iff_toNat_lt.2 h)

theorem first_of_long (hlow : 0xc2 ≤ a.toNat) (hhigh : a.toNat ≤ 0xf4) :
    ¬ a < 0x80 ∧ ¬ (a < 0xc2 ∨ 0xf4 < a) := by
  simp only [UInt8.lt_iff_toNat_lt, UInt8.reduceToNat]
  omega

theorem decodeFrom_two (position : Nat) (hlow : 0xc2 ≤ a.toNat) (hhigh : a.toNat < 0xe0)
    (hb : isSecond a b = true) :
    decodeFrom position (a :: b :: rest) =
      (decodeFrom (position + 2) rest).map (Char.ofNat (extend (a.toNat % 32) b) :: ·) := by
  obtain ⟨hone, hfirst⟩ := first_of_long hlow (by omega)
  have htwo : a < 0xe0 := UInt8.lt_iff_toNat_lt.2 hhigh
  rw [decodeFrom.eq_def]
  simp only [hone, hfirst, hb, htwo, if_false, if_true, Bool.not_true, Bool.false_eq_true]

theorem decodeFrom_three (position : Nat) (hlow : 0xe0 ≤ a.toNat) (hhigh : a.toNat < 0xf0)
    (hb : isSecond a b = true) (hc : isTail c = true) :
    decodeFrom position (a :: b :: c :: rest) =
      (decodeFrom (position + 3) rest).map
        (Char.ofNat (extend (extend (a.toNat % 16) b) c) :: ·) := by
  obtain ⟨hone, hfirst⟩ := first_of_long (a := a) (by omega) (by omega)
  have htwo : ¬ a < 0xe0 := mt UInt8.lt_iff_toNat_lt.1 (Nat.not_lt.2 hlow)
  have hthree : a < 0xf0 := UInt8.lt_iff_toNat_lt.2 hhigh
  rw [decodeFrom.eq_def]
  simp only [hone, hfirst, hb, hc, htwo, hthree, if_false, if_true, Bool.not_true,
    Bool.false_eq_true]

theorem decodeFrom_four (position : Nat) (hlow : 0xf0 ≤ a.toNat) (hhigh : a.toNat ≤ 0xf4)
    (hb : isSecond a b = true) (hc : isTail c = true) (hd : isTail d = true) :
    decodeFrom position (a :: b :: c :: d :: rest) =
      (decodeFrom (position + 4) rest).map
        (Char.ofNat (extend (extend (extend (a.toNat % 8) b) c) d) :: ·) := by
  obtain ⟨hone, hfirst⟩ := first_of_long (a := a) (by omega) hhigh
  have htwo : ¬ a < 0xe0 := mt UInt8.lt_iff_toNat_lt.1 (Nat.not_lt.2 (by simpa using by omega))
  have hthree : ¬ a < 0xf0 := mt UInt8.lt_iff_toNat_lt.1 (Nat.not_lt.2 hlow)
  rw [decodeFrom.eq_def]
  simp only [hone, hfirst, hb, hc, hd, htwo, hthree, if_false, Bool.not_true,
    Bool.false_eq_true]

theorem isTail_ofNat {n : Nat} (h : n < 64) : isTail (.ofNat (0x80 + n)) = true := by
  have hbyte : (UInt8.ofNat (0x80 + n)).toNat = 0x80 + n := toNat_ofNat (by omega)
  simp only [isTail, Bool.and_eq_true, decide_eq_true_eq, UInt8.le_iff_toNat_le, hbyte,
    UInt8.reduceToNat]
  omega

/-- The second byte is bounded by the first only where the first alone does not exclude long forms
and surrogates. -/
theorem isSecond_iff : isSecond a b = true ↔ isTail b = true ∧
    (a.toNat = 0xe0 → 0xa0 ≤ b.toNat) ∧ (a.toNat = 0xed → b.toNat ≤ 0x9f) ∧
      (a.toNat = 0xf0 → 0x90 ≤ b.toNat) ∧ (a.toNat = 0xf4 → b.toNat ≤ 0x8f) := by
  simp only [isSecond, Bool.and_eq_true, Bool.or_eq_true, bne_iff_ne, ne_eq, decide_eq_true_eq,
    UInt8.le_iff_toNat_le, ← UInt8.toNat_inj, UInt8.reduceToNat, and_assoc, ← imp_iff_not_or]

theorem extend_ofNat (k : Nat) {n : Nat} (h : n < 64) :
    extend k (.ofNat (0x80 + n)) = 64 * k + n := by
  rw [extend, toNat_ofNat (by omega)]
  omega

/-! ## Reading what is encoded -/

/-- **One character is read at a time.** -/
theorem decodeFrom_encodeChar (position : Nat) (c : Char) (rest : List UInt8) :
    ∃ size, decodeFrom position (encodeChar c ++ rest) =
      (decodeFrom (position + size) rest).map (c :: ·) := by
  have hvalid : c.toNat < 0xd800 ∨ 0xdfff < c.toNat ∧ c.toNat < 0x110000 := c.valid
  obtain ⟨n, hn⟩ : ∃ n, c.toNat = n := ⟨_, rfl⟩
  have hc : Char.ofNat n = c := hn ▸ Char.ofNat_toNat c
  have hpow : Nat.pow 64 0 = 1 ∧ Nat.pow 64 1 = 64 ∧ Nat.pow 64 2 = 4096 ∧
    Nat.pow 64 3 = 262144 := by decide
  have hmod (k : Nat) : k % 64 < 64 := Nat.mod_lt _ (by decide)
  rw [hn] at hvalid
  rw [encodeChar]
  simp only [hn, hpow, Nat.div_one]
  split
  · have ha := toNat_ofNat (n := n) (by omega)
    refine ⟨1, ?_⟩
    rw [List.singleton_append, decodeFrom_one _ (by omega), ha, hc]
  split
  · have ha := toNat_ofNat (n := 0xc0 + n / 64) (by omega)
    have hsecond : isSecond (.ofNat (0xc0 + n / 64)) (.ofNat (0x80 + n % 64)) = true :=
      isSecond_iff.2 ⟨isTail_ofNat (hmod _), by omega⟩
    have hvalue : 64 * ((0xc0 + n / 64) % 32) + n % 64 = n := by omega
    refine ⟨2, ?_⟩
    rw [List.cons_append, List.singleton_append,
      decodeFrom_two _ (by omega) (by omega) hsecond, ha, extend_ofNat _ (hmod _), hvalue, hc]
  split
  · have ha := toNat_ofNat (n := 0xe0 + n / 4096) (by omega)
    have hb := toNat_ofNat (n := 0x80 + n / 64 % 64) (by omega)
    have hsecond : isSecond (.ofNat (0xe0 + n / 4096)) (.ofNat (0x80 + n / 64 % 64)) = true :=
      isSecond_iff.2 ⟨isTail_ofNat (hmod _), by omega⟩
    have hvalue : 64 * (64 * ((0xe0 + n / 4096) % 16) + n / 64 % 64) + n % 64 = n := by omega
    refine ⟨3, ?_⟩
    rw [List.cons_append, List.cons_append, List.singleton_append,
      decodeFrom_three _ (by omega) (by omega) hsecond (isTail_ofNat (hmod _)), ha,
      extend_ofNat _ (hmod _), extend_ofNat _ (hmod _), hvalue, hc]
  · have ha := toNat_ofNat (n := 0xf0 + n / 262144) (by omega)
    have hb := toNat_ofNat (n := 0x80 + n / 4096 % 64) (by omega)
    have hsecond : isSecond (.ofNat (0xf0 + n / 262144)) (.ofNat (0x80 + n / 4096 % 64)) = true :=
      isSecond_iff.2 ⟨isTail_ofNat (hmod _), by omega⟩
    have hvalue : 64 * (64 * (64 * ((0xf0 + n / 262144) % 8) + n / 4096 % 64) + n / 64 % 64) +
      n % 64 = n := by omega
    refine ⟨4, ?_⟩
    rw [List.cons_append, List.cons_append, List.cons_append, List.singleton_append,
      decodeFrom_four _ (by omega) (by omega) hsecond (isTail_ofNat (hmod _))
        (isTail_ofNat (hmod _)), ha, extend_ofNat _ (hmod _), extend_ofNat _ (hmod _),
      extend_ofNat _ (hmod _), hvalue, hc]

theorem decodeFrom_encode (position : Nat) (t : Text) : decodeFrom position (encode t) = .ok t := by
  induction t generalizing position with
  | nil => rfl
  | cons c t ih =>
    obtain ⟨size, hsize⟩ := decodeFrom_encodeChar position c (encode t)
    rw [encode, List.flatMap_cons, ← encode, hsize, ih]
    rfl

/-- **The bytes of a text give the text back.** -/
theorem decode_encode (t : Text) : decode (encode t) = .ok t := decodeFrom_encode 0 t

/-! ## Line ends -/

theorem unifyNewlines_of_notMem {t : Text} (h : '\r' ∉ t) : unifyNewlines t = t := by
  induction t with
  | nil => rfl
  | cons c t ih =>
    obtain ⟨hc, ht⟩ := not_or.1 (mt List.mem_cons.2 h)
    rw [unifyNewlines, ih ht]
    · exact fun _ heq _ ↦ hc heq.symm
    · exact fun heq ↦ hc heq.symm

end ShaderDowngrade.Utf8

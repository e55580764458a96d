import Mathlib.Data.Nat.Basic
import ShaderDowngrade.Json.Reader
import ShaderDowngrade.Json.Writer

/-!
# Reading written strings

A character is written as itself, as a backslash and a letter, or by its UTF-16 units. Reading goes
the other way, one written character at a time, and is through with a character wherever its
escapes end; only the two units of a pair are read together.

Main statement: `Json.readString_escaped`, a written text is read as that text, whatever follows.

## Why texts and not strings

A string that holds two surrogates side by side is written like the character that they make up, so
it does not come back. A text holds no surrogates.
-/

namespace ShaderDowngrade

namespace CodeString

/-- No code point of the string is a surrogate. -/
def IsText (s : CodeString) : Prop := ∀ p ∈ s.points, p.char?.isSome = true

instance (s : CodeString) : Decidable s.IsText := inferInstanceAs (Decidable (∀ p ∈ _, _))

theorem isText_ofText (t : Text) : (ofText t).IsText := by
  intro p hp
  obtain ⟨c, -, rfl⟩ := List.mem_map.1 hp
  rfl

theorem IsText.exists_eq_ofText {s : CodeString} (h : s.IsText) : ∃ t, s = ofText t := by
  obtain ⟨points⟩ := s
  induction points with
  | nil => exact ⟨[], rfl⟩
  | cons p ps ih =>
    obtain ⟨hp, hps⟩ := List.forall_mem_cons.1 h
    obtain ⟨t, ht⟩ := ih hps
    cases p with
    | surrogate place => cases hp
    | char c =>
      refine ⟨c :: t, ?_⟩
      rw [ofText, mk.injEq] at ht ⊢
      rw [ht, List.map_cons]

end CodeString

namespace Json

/-! ## Units -/

theorem hexValue?_digitChar {d : Nat} (h : d < 16) : hexValue? (Nat.digitChar d) = some d := by
  have table : ∀ d < 16, hexValue? (Nat.digitChar d) = some d := by decide
  exact table d h

theorem exists_hexDigits {n : Nat} (h : n < 0x10000) :
    ∃ a b c d, Quoted.hexDigits 4 n = [a, b, c, d] ∧ unit? a b c d = some n := by
  refine ⟨_, _, _, _, rfl, ?_⟩
  rw [unit?, hexValue?_digitChar (Nat.mod_lt _ (by decide)),
    hexValue?_digitChar (Nat.mod_lt _ (by decide)), hexValue?_digitChar (Nat.mod_lt _ (by decide)),
    hexValue?_digitChar (Nat.mod_lt _ (by decide))]
  simp only [Option.bind_eq_bind, Option.bind_some, Option.pure_def, Option.some_inj]
  omega

variable {c : Char} {rest : Text}

theorem readUnicode_hexDigits (hsmall : c.toNat < 0x10000) (hrest : rest ≠ []) :
    readUnicode (Quoted.hexDigits 4 c.toNat ++ rest) = .ok (.char c, rest) := by
  obtain ⟨a, b, d, e, hdigits, hunit⟩ := exists_hexDigits hsmall
  obtain ⟨x, xs, rfl⟩ := List.exists_cons_of_ne_nil hrest
  have hvalid : c.toNat.isValidChar := c.valid
  have hhigh : isHighSurrogate c.toNat = false := by
    simp only [isHighSurrogate, Bool.and_eq_false_iff, decide_eq_false_iff_not]
    rcases hvalid with h | ⟨h, -⟩ <;> omega
  have hlow : isLowSurrogate c.toNat = false := by
    simp only [isLowSurrogate, Bool.and_eq_false_iff, decide_eq_false_iff_not]
    rcases hvalid with h | ⟨h, -⟩ <;> omega
  have hpoint : ofUnit c.toNat = .char c := by
    rw [ofUnit, hhigh, hlow, Bool.or_self, if_neg Bool.false_ne_true, Char.ofNat_toNat]
  rw [hdigits]
  simp only [List.cons_append, List.nil_append, readUnicode, hunit, hhigh, hpoint]

theorem readUnicode_of_pair {a b d e a' b' d' e' x : Char} {xs : Text} {high low : Nat}
    (hunit : unit? a b d e = some high) (hhigh : isHighSurrogate high = true)
    (hunit' : unit? a' b' d' e' = some low) (hlow : isLowSurrogate low = true) :
    readUnicode (a :: b :: d :: e :: '\\' :: 'u' :: a' :: b' :: d' :: e' :: x :: xs) =
      .ok (ofPair high low, x :: xs) := by
  simp only [readUnicode, hunit, hhigh, hunit', hlow, if_true]

theorem readUnicode_pair (hlarge : 0x10000 ≤ c.toNat) (hrest : rest ≠ []) :
    readUnicode (Quoted.hexDigits 4 (0xd800 + (c.toNat - 0x10000) / 0x400) ++
      (escapeUnit (0xdc00 + (c.toNat - 0x10000) % 0x400) ++ rest)) = .ok (.char c, rest) := by
  have hbound : c.toNat < 0x110000 := by
    have hvalid : c.toNat.isValidChar := c.valid
    rcases hvalid with h | ⟨-, h⟩ <;> omega
  obtain ⟨x, xs, rfl⟩ := List.exists_cons_of_ne_nil hrest
  generalize hhigh : 0xd800 + (c.toNat - 0x10000) / 0x400 = high
  generalize hlow : 0xdc00 + (c.toNat - 0x10000) % 0x400 = low
  obtain ⟨a, b, d, e, hdigits, hunit⟩ := exists_hexDigits (n := high) (by omega)
  obtain ⟨a', b', d', e', hdigits', hunit'⟩ := exists_hexDigits (n := low) (by omega)
  have hisHigh : isHighSurrogate high = true := by
    simp only [isHighSurrogate, Bool.and_eq_true, decide_eq_true_eq]
    omega
  have hisLow : isLowSurrogate low = true := by
    simp only [isLowSurrogate, Bool.and_eq_true, decide_eq_true_eq]
    omega
  have hpair : ofPair high low = .char c := by
    have : 0x10000 + 0x400 * (high - 0xd800) + (low - 0xdc00) = c.toNat := by omega
    rw [ofPair, this, Char.ofNat_toNat]
  rw [hdigits, escapeUnit, hdigits', ← hpair]
  exact readUnicode_of_pair hunit hisHigh hunit' hisLow

/-! ## Characters -/

theorem escapeChar_ne_nil (c : Char) : escapeChar c ≠ [] := by
  unfold escapeChar
  split
  iterate 7 exact List.cons_ne_nil _ _
  split
  · exact List.cons_ne_nil _ _
  · split
    · exact List.cons_ne_nil _ _
    · exact List.cons_ne_nil _ _

theorem readPoints_escapeChar (opened : Text) (fuel : Nat) (c : Char) (hrest : rest ≠ []) :
    readPoints opened (fuel + 1) (escapeChar c ++ rest) =
      (readPoints opened fuel rest).map fun (points, rest) ↦ (.char c :: points, rest) := by
  unfold escapeChar
  split
  iterate 7 rfl
  rename_i hquote hslash _ _ _ _ _
  split
  · -- the character stands for itself
    rename_i hvisible
    have hcontrol : ¬ c.toNat < 0x20 := by omega
    rw [List.singleton_append, readPoints]
    · rw [if_neg hcontrol]
      rfl
    · exact hquote
    · exact fun h _ ↦ hslash h
    · exact fun _ h _ ↦ hslash h
    · exact fun _ _ h _ ↦ hslash h
  · split
    · rename_i hsmall
      rw [escapeUnit, List.cons_append, List.cons_append, readPoints,
        readUnicode_hexDigits hsmall hrest]
      rfl
    · rename_i hlarge
      change readPoints opened (fuel + 1) ('\\' :: 'u' ::
        (Quoted.hexDigits 4 (0xd800 + (c.toNat - 0x10000) / 0x400) ++
          escapeUnit (0xdc00 + (c.toNat - 0x10000) % 0x400) ++ rest)) = _
      rw [readPoints, List.append_assoc, readUnicode_pair (by omega) hrest]
      rfl

theorem readPoints_escaped (opened : Text) (t rest : Text) (fuel : Nat) (h : t.length < fuel) :
    readPoints opened fuel (t.flatMap escapeChar ++ '"' :: rest) = .ok (t.map .char, rest) := by
  induction t generalizing fuel with
  | nil =>
    obtain ⟨fuel, rfl⟩ := Nat.exists_eq_succ_of_ne_zero (Nat.ne_of_gt h)
    rfl
  | cons c t ih =>
    obtain ⟨fuel, rfl⟩ := Nat.exists_eq_succ_of_ne_zero (Nat.ne_of_gt (Nat.zero_lt_of_lt h))
    rw [List.flatMap_cons, List.append_assoc,
      readPoints_escapeChar opened fuel c (List.append_ne_nil_of_right_ne_nil _ (by simp)),
      ih fuel (Nat.lt_of_succ_lt_succ h)]
    rfl

theorem length_le_length_escaped (t : Text) : t.length ≤ (t.flatMap escapeChar).length := by
  induction t with
  | nil => exact Nat.le_refl _
  | cons c t ih =>
    have := List.length_pos_iff.2 (escapeChar_ne_nil c)
    rw [List.flatMap_cons, List.length_append, List.length_cons]
    omega

/-- **A written text is read back**, whatever follows it. -/
theorem readString_escaped (t rest : Text) :
    readString (t.flatMap escapeChar ++ '"' :: rest) = .ok (.ofText t, rest) := by
  have hfuel : t.length < (t.flatMap escapeChar ++ '"' :: rest).length + 1 := by
    have := length_le_length_escaped t
    rw [List.length_append]
    omega
  rw [readString, readPoints_escaped _ t rest _ hfuel]
  rfl

theorem encodeString_ofText (t rest : Text) :
    encodeString (.ofText t) ++ rest = '"' :: (t.flatMap escapeChar ++ '"' :: rest) := by
  simp [encodeString, CodeString.ofText, List.flatMap_map, escapePoint]

end Json

end ShaderDowngrade

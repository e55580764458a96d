import ShaderDowngrade.Proofs.Text.Order

/-!
# Replacing a word

A text is cut at the occurrences of a word, from left to right, each as early as possible behind
the one before; they do not overlap. Joining the parts with another word between them replaces the
word, and the number of joints is the number of occurrences. The empty word is before every
character and at the end.

Main statements: `Text.cutAt_append_self` and `Text.cutAt_cons`, the cut of a text that begins with
the word and of one that does not; from them the same for `Text.replaceAll` and `Text.countOf`.

## Why the steps are stated

A cut is defined by the first occurrence of the word, wherever that is. The steps turn this into a
recursion on the text from its front, which is how a scan for a pattern goes. The two are compared
by an induction on the text.
-/

namespace ShaderDowngrade.Text

variable {word new t : Text}

theorem add_length_le_of_indexOf? {n : Nat} (h : indexOf? t word = some n) :
    n + word.length ≤ t.length := by
  obtain ⟨⟨a, b, rfl, rfl⟩, -⟩ := indexOf?_eq_some h
  simp

/-- The parts of the text between the occurrences of the word. -/
def cutAt (word t : Text) : List Text :=
  if hword : word = [] then [] :: t.map (fun c ↦ [c]) ++ [[]]
  else
    match _hn : indexOf? t word with
    | none => [t]
    | some n => t.take n :: cutAt word (t.drop (n + word.length))
termination_by t.length
decreasing_by
  have hle := add_length_le_of_indexOf? _hn
  have hpos := List.length_pos_iff.2 hword
  rw [List.length_drop]
  omega

/-- The text with `new` in the place of every occurrence of the word. -/
def replaceAll (word new t : Text) : Text := joinWith new (cutAt word t)

/-- The number of occurrences of the word. -/
def countOf (word t : Text) : Nat := (cutAt word t).length - 1

theorem cutAt_ne_nil (word t : Text) : cutAt word t ≠ [] := by
  rw [cutAt]
  split
  · exact List.cons_ne_nil _ _
  · split <;> exact List.cons_ne_nil _ _

/-! ## One step -/

theorem cutAt_nil (hword : word ≠ []) : cutAt word [] = [[]] := by
  have h : indexOf? [] word = none := by
    rw [indexOf?, if_neg]
    simpa using hword
  rw [cutAt, dif_neg hword]
  split
  · rfl
  · rename_i n hn
    rw [h] at hn
    cases hn

theorem cutAt_append_self (hword : word ≠ []) (t : Text) :
    cutAt word (word ++ t) = [] :: cutAt word t := by
  have h : indexOf? (word ++ t) word = some 0 := indexOf?_of_prefix (List.prefix_append word t)
  rw [cutAt, dif_neg hword]
  split
  · rename_i hn
    rw [h] at hn
    cases hn
  · rename_i n hn
    obtain rfl : 0 = n := Option.some.inj (h.symm.trans hn)
    rw [List.take_zero, Nat.zero_add, List.drop_left]

theorem cutAt_cons {c : Char} (hpre : ¬ word <+: c :: t) :
    cutAt word (c :: t) = (cutAt word t).modifyHead (c :: ·) := by
  have hword : word ≠ [] := by
    rintro rfl
    exact hpre List.nil_prefix
  have h : indexOf? (c :: t) word = (indexOf? t word).map (· + 1) := by
    rw [indexOf?, if_neg]
    rwa [List.isPrefixOf_iff_prefix]
  rw [cutAt, cutAt, dif_neg hword, dif_neg hword]
  split
  · rename_i hn
    rw [h, Option.map_eq_none_iff] at hn
    split
    · rfl
    · rename_i m hm
      rw [hn] at hm
      cases hm
  · rename_i n hn
    rw [h, Option.map_eq_some_iff] at hn
    obtain ⟨m, hm, rfl⟩ := hn
    split
    · rename_i hm'
      rw [hm] at hm'
      cases hm'
    · rename_i m' hm'
      obtain rfl : m = m' := Option.some.inj (hm.symm.trans hm')
      rw [List.take_succ_cons, Nat.add_right_comm, List.drop_succ_cons]
      rfl

/-! ## The parts joined again -/

theorem joinWith_cons {parts : List Text} (h : parts ≠ []) (part : Text) :
    joinWith new (part :: parts) = part ++ new ++ joinWith new parts := by
  obtain ⟨p, ps, rfl⟩ := List.exists_cons_of_ne_nil h
  rw [joinWith]
  exact List.cons_ne_nil p ps

theorem joinWith_modifyHead {parts : List Text} (h : parts ≠ []) (c : Char) :
    joinWith new (parts.modifyHead (c :: ·)) = c :: joinWith new parts := by
  obtain ⟨p, ps, rfl⟩ := List.exists_cons_of_ne_nil h
  cases ps with
  | nil => rfl
  | cons q qs => rfl

theorem replaceAll_empty (new t : Text) :
    replaceAll [] new t = t.flatMap (fun c ↦ new ++ [c]) ++ new := by
  have hparts (t : Text) : joinWith new (t.map (fun c ↦ [c]) ++ [[]]) =
      t.flatMap (fun c ↦ [c] ++ new) := by
    induction t with
    | nil => rfl
    | cons c t ih =>
      have hne : t.map (fun c ↦ [c]) ++ [[]] ≠ [] := List.append_ne_nil_of_right_ne_nil _ (by simp)
      rw [List.map_cons, List.cons_append, joinWith_cons hne, ih, List.flatMap_cons]
  have hturn (t : Text) : new ++ t.flatMap (fun c ↦ [c] ++ new) =
      t.flatMap (fun c ↦ new ++ [c]) ++ new := by
    induction t with
    | nil => simp
    | cons c t ih => simp [← ih]
  have hne : t.map (fun c ↦ [c]) ++ [[]] ≠ [] := List.append_ne_nil_of_right_ne_nil _ (by simp)
  rw [replaceAll, cutAt, dif_pos rfl, List.cons_append, joinWith_cons hne, hparts, List.nil_append,
    hturn]

theorem countOf_empty (t : Text) : countOf [] t = t.length + 1 := by
  rw [countOf, cutAt, dif_pos rfl]
  simp

theorem replaceAll_nil (hword : word ≠ []) (new : Text) : replaceAll word new [] = [] := by
  rw [replaceAll, cutAt_nil hword]
  rfl

theorem replaceAll_append_self (hword : word ≠ []) (new t : Text) :
    replaceAll word new (word ++ t) = new ++ replaceAll word new t := by
  rw [replaceAll, cutAt_append_self hword, joinWith_cons (cutAt_ne_nil word t), List.nil_append,
    replaceAll]

theorem replaceAll_cons {c : Char} (hpre : ¬ word <+: c :: t) (new : Text) :
    replaceAll word new (c :: t) = c :: replaceAll word new t := by
  rw [replaceAll, cutAt_cons hpre, joinWith_modifyHead (cutAt_ne_nil word t), replaceAll]

theorem countOf_nil (hword : word ≠ []) : countOf word [] = 0 := by
  rw [countOf, cutAt_nil hword]
  rfl

theorem countOf_append_self (hword : word ≠ []) (t : Text) :
    countOf word (word ++ t) = countOf word t + 1 := by
  have hpos := List.length_pos_iff.2 (cutAt_ne_nil word t)
  rw [countOf, countOf, cutAt_append_self hword, List.length_cons]
  omega

theorem countOf_cons {c : Char} (hpre : ¬ word <+: c :: t) :
    countOf word (c :: t) = countOf word t := by
  rw [countOf, countOf, cutAt_cons hpre, List.length_modifyHead]

end ShaderDowngrade.Text

import Mathlib.Data.List.TakeWhile
import ShaderDowngrade.Chain
import ShaderDowngrade.Proofs.Pattern.Shape
import ShaderDowngrade.Proofs.Pattern.Spans

/-!
# Words with a number behind them

A greedy repetition of a character test goes on as long as the characters pass, if what follows
matches there. A word with a number behind it is therefore matched together with all digits that
follow it, and where such words stand can be read off the text without following an expression.

Main statements: `Expr.matchAt_numbered`, the match of a word, all digits behind it and another
word; `Pattern.map_spans_of_expr_eq_numbered`, the matches of numbered words in terms of the text
alone; `Pattern.numbers_replaceWith`, the numbers are kept when the words are replaced.

## Why the language is not enough

Where `out_71` begins, `out_7` begins as well, and both are words of the pattern. Which of them is
matched is a matter of preference, and it makes the difference between two numbers.
-/

namespace ShaderDowngrade

namespace Expr

variable {test : CharTest} {s r : Cursor} {w rest : Text} {next : Cursor → Option Cursor}

theorem run_one_eq_none (h : ∀ c ∈ s.rest.head?, test.admits c = false) :
    (one test).run s next = none := by
  rw [run_one]
  split
  · rfl
  · rename_i c cs hs
    rw [hs] at h
    rw [if_neg]
    simp [h c rfl]

/-- A greedy repetition takes all characters that pass, if what follows matches behind them. -/
theorem repeatMore_greedy {n : Nat} (hn : w.length ≤ n) (hs : s.rest = w ++ rest)
    (hw : ∀ c ∈ w, test.admits c = true) (hrest : ∀ c ∈ rest.head?, test.admits c = false)
    (hnext : next (past s w [] rest) = some r) :
    repeatMore (one test).run true next n s = some r := by
  induction w generalizing s n with
  | nil =>
    rw [past_nil hs] at hnext
    cases n with
    | zero => exact hnext
    | succ n =>
      rw [List.nil_append] at hs
      simp only [repeatMore, if_true, run_one_eq_none (hs ▸ hrest)]
      exact hnext
  | cons c w ih =>
    obtain ⟨n, rfl⟩ := Nat.exists_eq_succ_of_ne_zero (Nat.ne_zero_of_lt hn)
    obtain ⟨position, _, groups⟩ := s
    obtain rfl : _ = c :: (w ++ rest) := hs
    have hc := hw c List.mem_cons_self
    have hagain := ih (s := ⟨position + 1, w ++ rest, groups⟩) (Nat.le_of_succ_le_succ hn) rfl
      (fun d hd ↦ hw d (List.mem_cons_of_mem c hd)) (by
        simpa [past, Nat.add_assoc, Nat.add_comm 1] using hnext)
    simp [repeatMore, hc, hagain]

theorem run_some1_greedy {items : List ClassItem} (hne : w ≠ []) (hs : s.rest = w ++ rest)
    (hw : ∀ c ∈ w, (CharTest.oneOf items).admits c = true)
    (hrest : ∀ c ∈ rest.head?, (CharTest.oneOf items).admits c = false)
    (hnext : next (past s w [] rest) = some r) : (some1 items).run s next = some r := by
  obtain ⟨c, w, rfl⟩ := List.exists_cons_of_ne_nil hne
  obtain ⟨position, _, groups⟩ := s
  obtain rfl : _ = c :: (w ++ rest) := hs
  have hc := hw c List.mem_cons_self
  have hmore := repeatMore_greedy (s := ⟨position + 1, w ++ rest, groups⟩)
    (n := (w ++ rest).length + 1) (by simp; omega) rfl
    (fun d hd ↦ hw d (List.mem_cons_of_mem c hd)) hrest (by
        simpa [past, Nat.add_assoc, Nat.add_comm 1] using hnext)
  rw [run, repeatExactly, run_one]
  dsimp only
  rw [if_pos hc]
  exact hmore

/-- A word, digits, which are remembered, and another word. -/
def numbered (w v : Text) : Expr :=
  seqAll (w.map char ++ .group 1 (.seqAll [Pattern.digits]) :: v.map char)

theorem admits_digit (c : Char) : (CharTest.oneOf [Pattern.digit]).admits c = c.isDigit := by
  simp [CharTest.admits, ClassItem.admits, Pattern.digit, Char.isDigit, UInt32.le_iff_toNat_le]

theorem mem_language_digits {w : Text} :
    w ∈ Pattern.digits.language ↔ w ≠ [] ∧ ∀ c ∈ w, c.isDigit = true := by
  rw [← List.length_pos_iff]
  constructor
  · rintro ⟨g, h⟩
    obtain ⟨hleast, -, hall, -⟩ := spells_rep_one.1 h
    exact ⟨hleast, fun c hc ↦ admits_digit c ▸ hall c hc⟩
  · rintro ⟨hleast, hall⟩
    refine ⟨[], spells_rep_one.2 ⟨hleast, by simp, fun c hc ↦ ?_, rfl⟩⟩
    rw [admits_digit, hall c hc]

theorem plain_numbered (w v : Text) : (numbered w v).Plain = true := by
  refine plain_seqAll fun e he ↦ ?_
  simp only [List.mem_append, List.mem_cons, List.mem_map] at he
  rcases he with ⟨c, -, rfl⟩ | rfl | ⟨c, -, rfl⟩ <;> rfl

theorem matchAt_numbered {w ds v rest : Text} (hne : ds ≠ []) (hds : ∀ c ∈ ds, c.isDigit = true)
    (hrest : ∀ c ∈ (v ++ rest).head?, c.isDigit = false) :
    (numbered w v).matchAt 0 true (w ++ ds ++ v ++ rest) = some ⟨w ++ ds ++ v, [(1, ds)]⟩ := by
  have hpre : w.isPrefixOf (w ++ ds ++ v ++ rest) = true := by
    simp
  have hdrop : (w ++ ds ++ v ++ rest).drop w.length = ds ++ (v ++ rest) := by
    rw [List.append_assoc, List.append_assoc, List.drop_left]
  have hword (s : Cursor) (next : Cursor → Option Cursor) :
      run (seqAll (v.map char)) s next = run (word v) s next := rfl
  have hrun : run (seqAll (.group 1 (.seqAll [Pattern.digits]) :: v.map char))
      ⟨w.length, ds ++ (v ++ rest), []⟩ some =
        some ⟨w.length + ds.length + v.length, rest, [(1, ds)]⟩ := by
    rw [seqAll, run_seq, run, seqAll, seqAll, run_seq]
    refine run_some1_greedy hne rfl (fun c hc ↦ ?_) (fun c hc ↦ ?_) ?_
    · rw [admits_digit, hds c hc]
    · rw [admits_digit, hrest c hc]
    · simp [past, hword, run_word]
  rw [matchAt, numbered, run_seqAll_map_char_append, if_pos hpre, hdrop]
  simp only [Bool.true_or, if_true, Nat.zero_add]
  rw [hrun, Option.map_some, Nat.sub_zero, ← List.length_append, ← List.length_append,
    List.take_left]

theorem spells_numbered {w v : Text} {m : Match} (h : (numbered w v).Spells m.text m.groups) :
    m.group 1 ∈ Pattern.digits.language ∧ m.text = w ++ m.group 1 ++ v := by
  obtain ⟨_, htext, h₁⟩ := spells_seqAll_map_char_append.1 h
  obtain ⟨_, _, _, _, hnumber, h₂, rfl, hgroups⟩ := spells_seqAll_group h₁
  obtain ⟨number, _, hdigits, ⟨rfl, rfl⟩, rfl⟩ := spells_seqAll_some1 hnumber
  rw [← List.append_nil (v.map char)] at h₂
  obtain ⟨_, rfl, ⟨rfl, rfl⟩⟩ := spells_seqAll_map_char_append.1 h₂
  have hgroup : m.group 1 = number := by simp [Match.group, hgroups]
  rw [hgroup]
  exact ⟨hdigits, by simp [htext]⟩

end Expr

namespace Text

/-- The number that stands behind the word, if the text begins with the word and some digits: all
digits that follow. -/
def numberBehind? (word t : Text) : Option Text :=
  if word.isPrefixOf t then
    let digits := (t.drop word.length).takeWhile Char.isDigit
    if digits.isEmpty then none else some digits
  else none

/-- The numbers behind the word in a text that begins at the given place, each with the place where
its word begins. -/
def numbersBehind (word : Text) : Nat → Text → List (Nat × Text)
  | _, [] => []
  | n, c :: cs => (numberBehind? word (c :: cs)).toList.map (n, ·) ++ numbersBehind word (n + 1) cs

variable {word t digits : Text}

theorem numberBehind?_eq_some_iff : numberBehind? word t = some digits ↔
    ∃ rest, t = word ++ digits ++ rest ∧ digits ≠ [] ∧ (∀ c ∈ digits, c.isDigit = true) ∧
      ∀ c ∈ rest.head?, c.isDigit = false := by
  constructor
  · intro h
    rw [numberBehind?] at h
    split at h
    · rename_i hpre
      obtain ⟨u, rfl⟩ := List.isPrefixOf_iff_prefix.1 hpre
      simp only [List.drop_left, List.isEmpty_iff] at h
      split at h
      · cases h
      · rename_i hne
        obtain rfl := Option.some.inj h
        refine ⟨u.dropWhile Char.isDigit, ?_, hne, fun c hc ↦ ?_, fun c hc ↦ ?_⟩
        · rw [List.append_assoc, List.takeWhile_append_dropWhile]
        · exact List.mem_takeWhile_imp hc
        · have hhead := List.head?_dropWhile_not Char.isDigit u
          rwa [Option.mem_def.1 hc] at hhead
    · cases h
  · rintro ⟨rest, rfl, hne, hdigits, hrest⟩
    have htake : (digits ++ rest).takeWhile Char.isDigit = digits := by
      rw [List.takeWhile_append_of_pos hdigits]
      cases rest with
      | nil => rw [List.takeWhile_nil, List.append_nil]
      | cons c rest =>
        rw [List.takeWhile_cons_of_neg (by simp [hrest c rfl]), List.append_nil]
    have hpre : word.isPrefixOf (word ++ digits ++ rest) = true := by simp
    rw [numberBehind?, if_pos hpre, List.append_assoc, List.drop_left, htake]
    simp [hne]

theorem numberBehind?_ne_none {c : Char} (hc : c.isDigit = true) (t : Text) :
    numberBehind? word (word ++ c :: t) ≠ none := by
  have hpre : word.isPrefixOf (word ++ c :: t) = true := by simp
  rw [numberBehind?, if_pos hpre, List.drop_left]
  simp [hc]

theorem numbersBehind_append {s : Text} (h : ∀ u v, s = u ++ v → v ≠ [] → ¬ word <+: v ++ t)
    (n : Nat) : numbersBehind word n (s ++ t) = numbersBehind word (n + s.length) t := by
  induction s generalizing n with
  | nil => rfl
  | cons c s ih =>
    have hnone : numberBehind? word (c :: (s ++ t)) = none := by
      rw [Option.eq_none_iff_forall_ne_some]
      intro digits hsome
      obtain ⟨rest, hrest, -⟩ := numberBehind?_eq_some_iff.1 hsome
      refine h [] (c :: s) rfl (List.cons_ne_nil c s) ⟨digits ++ rest, ?_⟩
      rw [List.cons_append, hrest, List.append_assoc]
    rw [List.cons_append, numbersBehind, hnone,
      ih fun u v hs ↦ h (c :: u) v (by rw [hs, List.cons_append]), List.length_cons]
    simp [Nat.add_comm, Nat.add_left_comm]

end Text

namespace Pattern

variable {p : Pattern} {word t : Text} {c : Char}

theorem matchAt_of_expr_eq_numbered (hp : p.expr = .numbered word []) (t : Text) :
    p.expr.matchAt 0 true t =
      (Text.numberBehind? word t).map fun digits ↦ ⟨word ++ digits, [(1, digits)]⟩ := by
  cases h : Text.numberBehind? word t with
  | some digits =>
    obtain ⟨rest, rfl, hne, hdigits, hrest⟩ := Text.numberBehind?_eq_some_iff.1 h
    have hmatch := Expr.matchAt_numbered (w := word) (v := []) hne hdigits hrest
    rw [List.append_nil] at hmatch
    rw [hp, hmatch]
    rfl
  | none =>
    rw [Option.map_none, Option.eq_none_iff_forall_ne_some]
    intro m hm
    obtain ⟨hspells, rest, rfl⟩ := Expr.spells_of_matchAt hm
    obtain ⟨hnumber, htext⟩ := Expr.spells_numbered (hp ▸ hspells)
    obtain ⟨hne, hdigits⟩ := Expr.mem_language_digits.1 hnumber
    obtain ⟨c, more, hcons⟩ := List.exists_cons_of_ne_nil hne
    have hc : c.isDigit = true := hdigits c (hcons ▸ List.mem_cons_self)
    rw [htext, hcons, List.append_nil, List.append_assoc, List.cons_append] at h
    exact Text.numberBehind?_ne_none hc _ h

theorem nil_notMem_words_of_expr_eq_numbered {v : Text} (hp : p.expr = .numbered word v) :
    [] ∉ p.words := by
  rintro ⟨g, h⟩
  rw [hp] at h
  obtain ⟨hnumber, htext⟩ := Expr.spells_numbered (m := ⟨[], g⟩) h
  have hempty := (List.append_eq_nil_iff.1 (List.append_eq_nil_iff.1 htext.symm).1).2
  exact (Expr.mem_language_digits.1 hnumber).1 hempty

/-- **The matches of a numbered word**, in terms of the text alone. -/
theorem map_spans_of_expr_eq_numbered (hp : p.expr = .numbered word []) (hword : word ≠ [])
    (hself : Shape.outside [.ofWord word] (Shape.joined [.ofWord word.tail] digits.shapes) = true)
    (n : Nat) (t : Text) :
    (p.spans n t).map (fun s ↦ (s.start, s.found.group 1)) = Text.numbersBehind word n t := by
  have hplain : p.expr.Plain = true := hp ▸ Expr.plain_numbered word []
  have hne := nil_notMem_words_of_expr_eq_numbered hp
  induction t using scan_induction hne generalizing n with
  | nil =>
    rw [spans, pieces_nil hne]
    rfl
  | kept c t hnone ih =>
    rw [spans_cons_of_eq_none hplain hnone, ih, Text.numbersBehind]
    rw [matchAt_of_expr_eq_numbered hp, Option.map_eq_none_iff] at hnone
    rw [hnone]
    rfl
  | found m t _ hm hsome ih =>
    rw [spans_append_of_eq_some hplain hm hsome, List.map_cons, ih]
    rw [matchAt_of_expr_eq_numbered hp, Option.map_eq_some_iff] at hsome
    obtain ⟨digits, hdigits, rfl⟩ := hsome
    obtain ⟨_, -, hnonempty, hall, -⟩ := Text.numberBehind?_eq_some_iff.1 hdigits
    obtain ⟨c, word, rfl⟩ := List.exists_cons_of_ne_nil hword
    -- no word begins in the rest of the match
    have hrest : word ++ digits ∈ Shape.words (Shape.joined [.ofWord word] Pattern.digits.shapes) :=
      Shape.append_mem_words (by simp)
        (Expr.language_subset _ (Expr.mem_language_digits.2 ⟨hnonempty, hall⟩))
    have hskip : Text.numbersBehind (c :: word) (n + 1) (word ++ digits ++ t) =
        Text.numbersBehind (c :: word) (n + 1 + (word ++ digits).length) t := by
      refine Text.numbersBehind_append (fun u v huv hv ↦ ?_) (n + 1)
      rintro ⟨z, hz⟩
      exact Shape.outside_words hself (by simp) hrest huv hv (Text.comparable_of_append_eq hz).symm
    simp only [List.cons_append, List.append_assoc] at hdigits hskip ⊢
    rw [Text.numbersBehind, hdigits, hskip]
    simp [Match.group, Nat.add_comm, Nat.add_left_comm]

/-- If words with numbers give way to other words with the same numbers, which cannot be joined from
what is kept, then the numbers of the latter are those of the former. -/
theorem numbers_replaceWith {p q : Pattern} {word new close : Text} {d : Char}
    (hp : p.expr = .numbered word []) (hq : q.expr = .numbered new close)
    (hclose : close.head? = some d) (hd : d.isDigit = false)
    (hreach : Text.ReachesBy ∅ {new}
      (Shape.words (Shape.joined (Shape.joined [.ofWord new] digits.shapes) [.ofWord close])))
    {t : Text} (h : ¬ new <:+: t) :
    (q.allMatches (p.replaceWith (fun m ↦ new ++ m.group 1 ++ close) t)).map (·.group 1) =
      (p.allMatches t).map (·.group 1) := by
  have hplain : p.expr.Plain = true := hp ▸ Expr.plain_numbered word []
  have hplain' : q.expr.Plain = true := hq ▸ Expr.plain_numbered new close
  have hne := nil_notMem_words_of_expr_eq_numbered hp
  have hne' := nil_notMem_words_of_expr_eq_numbered hq
  have hput {m : Match} (hm : p.expr.Spells m.text m.groups) : new ++ m.group 1 ++ close ∈
      Shape.words (Shape.joined (Shape.joined [.ofWord new] digits.shapes) [.ofWord close]) :=
    Shape.append_mem_words (Shape.append_mem_words (by simp)
      (Expr.language_subset _ (Expr.spells_numbered (hp ▸ hm)).1)) (by simp)
  induction t using scan_induction hne with
  | nil => rw [replaceWith_nil hne, allMatches_nil hne', allMatches_nil hne]
  | kept c t hnone ih =>
    have ht := ih fun hi ↦ h (hi.trans (List.suffix_cons c t).isInfix)
    have hkept : q.expr.matchAt 0 true
        (c :: p.replaceWith (fun m ↦ new ++ m.group 1 ++ close) t) = none := by
      refine Expr.matchAt_eq_none fun w ⟨g, hw⟩ hpre ↦ h ?_
      rw [hq] at hw
      obtain ⟨v, rfl, -⟩ := Expr.spells_seqAll_map_char_append.1 hw
      have hbegin := (List.prefix_append new v).trans hpre
      rcases (rewrites_replaceWith hplain hne _ t).prefix_or_stub (a := [c]) (fun _ ↦ hput) hreach
        (Set.mem_singleton new) (List.cons_ne_nil c []) hbegin with hold | ⟨_, hk, -⟩
      · exact hold.isInfix
      · exact hk.elim
    rw [replaceWith_cons_of_eq_none hplain hnone, allMatches_cons_of_eq_none hplain' hkept, ht,
      allMatches_cons_of_eq_none hplain hnone]
  | found m t hm hnonempty hsome ih =>
    have ht := ih fun hi ↦ h (hi.trans (List.suffix_append m.text t).isInfix)
    obtain ⟨hnumber, hall⟩ := Expr.mem_language_digits.1 (Expr.spells_numbered (hp ▸ hm)).1
    have hmatch : q.expr.matchAt 0 true (new ++ m.group 1 ++ close ++
        p.replaceWith (fun m ↦ new ++ m.group 1 ++ close) t) =
          some ⟨new ++ m.group 1 ++ close, [(1, m.group 1)]⟩ := by
      rw [hq]
      refine Expr.matchAt_numbered hnumber hall fun c hc ↦ ?_
      rw [List.head?_append, hclose, Option.some_or] at hc
      rwa [← Option.some.inj hc]
    have hnonempty' : new ++ m.group 1 ++ close ≠ [] := by
      simp [hnumber]
    rw [replaceWith_append_of_eq_some hplain hnonempty hsome,
      allMatches_append_of_eq_some (m := ⟨_, _⟩) hplain' hnonempty' hmatch, List.map_cons, ht,
      allMatches_append_of_eq_some hplain hnonempty hsome]
    rfl

end Pattern

end ShaderDowngrade

import ShaderDowngrade.Chain
import ShaderDowngrade.Proofs.Pattern.Scanning
import ShaderDowngrade.Proofs.Rule.Output
import ShaderDowngrade.Proofs.Text.Replacing

/-!
# Literal rules

A rule with a literal pattern and a replacement without a backslash replaces a word by a word:
neither the way the word is escaped and read again, nor the search by expressions, nor the template
shows. This holds for every word, also for one that overlaps itself and for the empty one.

Main statements: `Pattern.replaceWith_literal` and `Pattern.count_literal`, what a literal pattern
does in terms of texts alone; `Template.read_of_notMem`, a template without a backslash stands for
itself; `Substitution.replacesWord_ofWritten`, literal rules replace words.

## The empty word

A scan for a word that is not empty takes one step after another, and the step of the search for the
word is the same. For the empty word there is no such step, as a match consumes nothing; there the
scan finds one match before each character and one at the end.
-/

namespace ShaderDowngrade

namespace Expr

theorem matchAt_word (w : Text) (position : Nat) (mayBeEmpty : Bool) (rest : Text) :
    (word w).matchAt position mayBeEmpty rest =
      if w.isPrefixOf rest && (mayBeEmpty || !w.isEmpty) then some ⟨w, []⟩ else none := by
  rw [matchAt, run_word]
  by_cases hpre : w.isPrefixOf rest = true
  · have htake : rest.take w.length = w :=
      (List.prefix_iff_eq_take.1 (List.isPrefixOf_iff_prefix.1 hpre)).symm
    cases w with
    | nil => cases mayBeEmpty <;> simp
    | cons c w =>
      rw [List.length_cons] at htake
      simp [hpre, htake]
  · simp [hpre]

theorem piecesFrom_word_nil (position : Nat) (t : Text) :
    (word []).piecesFrom position 0 t =
      t.flatMap (fun c ↦ [.found ⟨[], []⟩, .kept c]) ++ [.found ⟨[], []⟩] := by
  induction t generalizing position with
  | nil => simp [piecesFrom, matchAt_word]
  | cons c t ih => simp [piecesFrom, matchAt_word, ih]

end Expr

namespace Pattern

variable {word new t : Text}

theorem matchAt_literal (t : Text) :
    (literal word).expr.matchAt 0 true t =
      if word.isPrefixOf t then some ⟨word, []⟩ else none := by
  simp [literal, Expr.matchAt_word]

theorem words_literal (word : Text) : (literal word).words = {word} := words_of_expr_eq_word rfl

theorem nil_notMem_words_literal (hword : word ≠ []) : [] ∉ (literal word).words := by
  rw [words_literal]
  exact hword ∘ Eq.symm

theorem matchAt_literal_append_self (t : Text) :
    (literal word).expr.matchAt 0 true (word ++ t) = some ⟨word, []⟩ := by
  rw [matchAt_literal, if_pos (List.isPrefixOf_iff_prefix.2 (List.prefix_append word t))]

theorem matchAt_literal_eq_none (hpre : ¬ word <+: t) :
    (literal word).expr.matchAt 0 true t = none := by
  rw [matchAt_literal, if_neg]
  rwa [List.isPrefixOf_iff_prefix]

/-- **Induction on the search for a word.** -/
theorem word_induction {motive : Text → Prop} (hword : word ≠ []) (nil : motive [])
    (cons : ∀ c t, ¬ word <+: c :: t → motive t → motive (c :: t))
    (append : ∀ t, motive t → motive (word ++ t)) (t : Text) : motive t := by
  have hmem : word ∈ (literal word).words := by
    rw [words_literal]
    rfl
  refine scan_induction (nil_notMem_words_literal hword) nil (fun c t hnone ↦ cons c t ?_)
    (fun m t hm _ _ ↦ ?_) t
  · exact Expr.not_isPrefix_of_matchAt_eq_none (Expr.plain_word word) hnone hmem
  · rw [text_eq_of_expr_eq_word rfl hm]
    exact append t

theorem replaceWith_literal (word new t : Text) :
    (literal word).replaceWith (fun _ ↦ new) t = Text.replaceAll word new t := by
  by_cases hword : word = []
  · subst hword
    have hpieces := Expr.piecesFrom_word_nil 0 t
    rw [replaceWith, pieces, literal, hpieces, Text.replaceAll_empty]
    simp [List.flatMap_assoc]
  · have hplain := Expr.plain_word word
    induction t using word_induction hword with
    | nil =>
      rw [replaceWith_nil (nil_notMem_words_literal hword), Text.replaceAll_nil hword]
    | cons c t hpre ih =>
      rw [Text.replaceAll_cons hpre, ← ih,
        replaceWith_cons_of_eq_none hplain (matchAt_literal_eq_none hpre)]
    | append t ih =>
      rw [Text.replaceAll_append_self hword, ← ih,
        replaceWith_append_of_eq_some (m := ⟨word, []⟩) hplain hword
          (matchAt_literal_append_self t)]

theorem count_literal (word t : Text) : (literal word).count t = Text.countOf word t := by
  by_cases hword : word = []
  · subst hword
    have hfound : (t.flatMap fun c ↦ [Piece.found ⟨[], []⟩, .kept c]).filterMap Piece.match? =
        t.map fun _ ↦ ⟨[], []⟩ := by
      induction t with
      | nil => rfl
      | cons c t ih => simp [List.filterMap_cons, Piece.match?, ih]
    rw [count, allMatches, pieces, literal, Expr.piecesFrom_word_nil, Text.countOf_empty,
      List.filterMap_append, hfound]
    simp [Piece.match?]
  · have hplain := Expr.plain_word word
    induction t using word_induction hword with
    | nil =>
      rw [count, allMatches_nil (nil_notMem_words_literal hword), Text.countOf_nil hword]
      rfl
    | cons c t hpre ih =>
      rw [Text.countOf_cons hpre, ← ih, count, count,
        allMatches_cons_of_eq_none hplain (matchAt_literal_eq_none hpre)]
    | append t ih =>
      rw [Text.countOf_append_self hword, ← ih, count, count,
        allMatches_append_of_eq_some (m := ⟨word, []⟩) hplain hword
          (matchAt_literal_append_self t), List.length_cons]

end Pattern

/-! ## Templates without a backslash -/

namespace Template

theorem readParts_of_notMem {written : Text} (h : '\\' ∉ written) (groups : Nat) {fuel : Nat}
    (hfuel : written.length ≤ fuel) :
    readParts groups fuel written = .ok (written.map .char) := by
  induction written generalizing fuel with
  | nil => cases fuel <;> rfl
  | cons c written ih =>
    obtain ⟨hc, hwritten⟩ := not_or.1 (List.mem_cons.not.1 h)
    cases fuel with
    | zero => cases hfuel
    | succ fuel =>
      have hrest := ih hwritten (Nat.le_of_succ_le_succ hfuel)
      rw [readParts]
      · rw [hrest]
        rfl
      · rintro rfl -
        exact hc rfl
      · rintro d rest rfl -
        exact hc rfl

theorem read_of_notMem {written : Text} (h : '\\' ∉ written) (groups : Nat) :
    read groups written = .ok (written.map .char) :=
  readParts_of_notMem h groups (Nat.le_refl _)

end Template

/-! ## Rules -/

/-- The rule replaces a word by another one, and records how often. -/
def Rule.ReplacesWord (r : Rule) (stage : Stage) (word new : Text) : Prop :=
  ∀ outer t, ∃ e : Entry,
    r.apply stage outer t = ⟨[e], Text.replaceAll word new t, none⟩ ∧
      e.matchCount = Text.countOf word t ∧ e.fired = decide (0 < Text.countOf word t)

namespace Substitution

variable {r : Substitution} {stage : Stage} {word new : Text}

theorem replacesWord (hpattern : r.pattern = .literal word) (hgate : r.gate.admits stage = true)
    (hnew : '\\' ∉ r.replacement.toList) :
    (Rule.substitute r).ReplacesWord stage word r.replacement.toList := by
  intro outer t
  have hread := Template.read_of_notMem hnew r.pattern.expr.groupCount
  have hexpand : Template.expand (r.replacement.toList.map .char) = fun _ ↦ r.replacement.toList :=
    funext (Template.expand_map_char _)
  obtain ⟨e, happly, -, hcount, hfired⟩ := records hread hgate t outer
  rw [output_of_read hread hgate, hexpand, hpattern, Pattern.replaceWith_literal] at happly
  rw [hpattern, Pattern.count_literal] at hcount hfired
  exact ⟨e, happly, hcount, hfired⟩

/-- A literal rule can be built of every word, unless its forbidden pattern cannot be read. -/
theorem ofWritten_literal (name word new : String) (gate : Gate) (forbids description : String) :
    ofWritten name word new gate true forbids description =
      (if forbids = "" then .ok none else (Pattern.read forbids).map some).map fun forbids ↦
        { name, pattern := .literal word.toList, replacement := new, gate, forbids,
          description } := by
  rw [ofWritten, if_pos rfl]
  split
  · rfl
  · cases Pattern.read forbids <;> rfl

theorem exists_eq_of_ofWritten_literal {name word new forbids description : String} {gate : Gate}
    (h : ofWritten name word new gate true forbids description = .ok r) :
    ∃ forbidden, r = { name, pattern := .literal word.toList, replacement := new, gate
                       forbids := forbidden, description } := by
  rw [ofWritten_literal] at h
  cases hforbids : (if forbids = "" then .ok none else (Pattern.read forbids).map some :
      Except PatternError (Option Pattern)) with
  | error e =>
    rw [hforbids] at h
    cases h
  | ok forbidden =>
    rw [hforbids] at h
    exact ⟨forbidden, (Except.ok.inj h).symm⟩

end Substitution

/-- The cube sampler rule is the literal rule of the name that forbids the escaped name. -/
theorem Chain.cubeSampling_eq_ofWritten (name : String) :
    ∃ r, Substitution.ofWritten "CubeSamplingRename" name "textureCube" .always true
        (String.ofList (Pattern.escape name.toList))
        ("Rename every '" ++ name ++ "' to 'textureCube'") = .ok r ∧
      cubeSampling name = .substitute r := by
  have hempty : String.ofList (Pattern.escape name.toList) = "" ↔ name = "" := by
    constructor
    · intro h
      have hlen := Pattern.length_le_length_escape name.toList
      rw [← String.toList_inj] at h ⊢
      rw [String.toList_ofList] at h
      rw [h] at hlen
      exact List.eq_nil_of_length_eq_zero (Nat.le_zero.1 hlen)
    · rintro rfl
      rfl
  refine ⟨_, ?_, rfl⟩
  rw [Substitution.ofWritten_literal, Pattern.read_escape]
  by_cases h : name = ""
  · rw [if_pos (hempty.2 h), if_pos h]
    rfl
  · rw [if_neg (hempty.not.2 h), if_neg h]
    rfl

namespace Rule

theorem replacesWord_cubeSampling (name : String) (stage : Stage) :
    (Chain.cubeSampling name).ReplacesWord stage name.toList "textureCube".toList := by
  have hnew : '\\' ∉ "textureCube".toList := by decide
  exact Substitution.replacesWord rfl rfl hnew

theorem violations_cubeSampling_ne_nil_iff (name : String) (stage : Stage) (t : Text) :
    (Chain.cubeSampling name).violations stage t ≠ [] ↔
      name ≠ "" ∧ Text.includes t name.toList = true := by
  by_cases hname : name = ""
  · rw [Chain.cubeSampling, if_pos hname]
    simp [violations, Substitution.violations, hname]
  · rw [ne_eq, Chain.cubeSampling, if_neg hname, violations_eq_nil_iff_of_word rfl rfl rfl]
    simp [hname]

/-- **Literal rules replace a word by a word.** The rule of a word, however it is spelled, can be
built; where it runs it does not fail, it leaves what replacing the word in the text leaves, and it
records how often the word was there. The cube sampler rule is such a rule, and what it forbids is
the name itself. -/
theorem literal_replaces_word (name word new : String) (gate : Gate) (description : String)
    (hnew : '\\' ∉ new.toList) (stage : Stage) (hgate : gate.admits stage = true) :
    (∃ r, Substitution.ofWritten name word new gate true "" description = .ok r) ∧
      (∀ forbids r, Substitution.ofWritten name word new gate true forbids description = .ok r →
        Pattern.read (String.ofList (Pattern.escape word.toList)) = .ok r.pattern ∧
          (substitute r).ReplacesWord stage word.toList new.toList) ∧
      (∀ t, Text.replaceAll [] new.toList t =
          t.flatMap (fun c ↦ new.toList ++ [c]) ++ new.toList ∧
        Text.countOf [] t = t.length + 1) ∧
      ∀ sampler stage,
        (∃ r, Substitution.ofWritten "CubeSamplingRename" sampler "textureCube" .always true
            (String.ofList (Pattern.escape sampler.toList))
            ("Rename every '" ++ sampler ++ "' to 'textureCube'") = .ok r ∧
          Chain.cubeSampling sampler = .substitute r) ∧
        (Chain.cubeSampling sampler).ReplacesWord stage sampler.toList "textureCube".toList ∧
        ∀ t, (Chain.cubeSampling sampler).violations stage t ≠ [] ↔
          sampler ≠ "" ∧ Text.includes t sampler.toList = true := by
  refine ⟨?_, fun forbids r hr ↦ ?_, fun t ↦ ?_, fun sampler stage ↦ ?_⟩
  · rw [Substitution.ofWritten_literal, if_pos rfl]
    exact ⟨_, rfl⟩
  · obtain ⟨forbidden, rfl⟩ := Substitution.exists_eq_of_ofWritten_literal hr
    exact ⟨Pattern.read_escape _, Substitution.replacesWord rfl hgate hnew⟩
  · exact ⟨Text.replaceAll_empty _ t, Text.countOf_empty t⟩
  · exact ⟨Chain.cubeSampling_eq_ofWritten sampler, replacesWord_cubeSampling sampler stage,
      violations_cubeSampling_ne_nil_iff sampler stage⟩

/-- Of two occurrences that overlap the first is replaced. -/
theorem literal_replaces_word_overlapping :
    '\\' ∉ "x".toList ∧ Gate.always.admits .vertex = true ∧
      ∃ r e, Substitution.ofWritten "Sum" "a+a" "x" .always true "" "" = .ok r ∧
        (substitute r).apply .vertex "" "a+a+a".toList = ⟨[e], "x+a".toList, none⟩ ∧
        e.matchCount = 1 := by
  have hnew : '\\' ∉ "x".toList := by decide
  obtain ⟨⟨r, hr⟩, hbuilt, -⟩ := literal_replaces_word "Sum" "a+a" "x" .always "" hnew .vertex rfl
  obtain ⟨e, happly, hcount, -⟩ := (hbuilt "" r hr).2 "" "a+a+a".toList
  have hreplaced : Text.replaceAll "a+a".toList "x".toList "a+a+a".toList = "x+a".toList := by cbv
  have hone : Text.countOf "a+a".toList "a+a+a".toList = 1 := by cbv
  refine ⟨hnew, rfl, r, e, hr, ?_, ?_⟩
  · rw [happly, hreplaced]
  · rw [hcount, hone]
    rfl

end Rule

end ShaderDowngrade

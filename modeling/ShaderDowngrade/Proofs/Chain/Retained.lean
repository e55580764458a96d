import ShaderDowngrade.Proofs.Chain.Directives

/-!
# What a missing rule leaves behind

If a rule of the chain is left out, then what it would have replaced is still in the text when the
rules behind it have run, since these look for other words. The checks of the finished text ask for
most of those words, so a text that passes them has not needed the rule.

Main statements: `Rule.occurs_applyAll_of_retains`, what every rule retains is in the finished text;
`Finished.clean_of_check_eq_nil`, what a text that passes the checks does not hold;
`Chain.retains_late`, which words the rules of the chain retain.

## Why the pieces are compared and not the words

A rule that looks for another word may still break an occurrence that overlaps with what it
replaces, and the rules for declarations replace more than a word. A rule therefore retains what is
apart from all pieces that it takes out: then no occurrence can overlap with one.
-/

namespace ShaderDowngrade

namespace Rule

variable {W : Set Text} {r : Rule} {rs : List Rule} {stage : Stage} {outer : String} {t : Text}

/-- At the stage the rule can be applied to every text, and if one of the words occurs there, one
does afterwards. -/
structure Retains (W : Set Text) (r : Rule) (stage : Stage) : Prop where
  /-- The rule never fails. -/
  applicable : r.Applicable stage
  /-- The words do not disappear. -/
  occurs : ∀ {t : Text}, Text.Occurs W t → Text.Occurs W (r.output stage t)

theorem retains_of_not_admits (h : r.admits stage = false) : r.Retains W stage where
  applicable := applicable_of_not_admits h
  occurs ht := by rwa [(idle_of_not_admits h).1]

/-- A rule retains what is apart from its matches. -/
theorem Replaces.retains {p : Pattern} {replacement : Match → Text}
    (h : r.Replaces stage p replacement) {ws : List Shape} (hW : W ⊆ Shape.words ws)
    (hapart : Shape.apart ws p.shapes = true) : r.Retains W stage where
  applicable := h.applicable
  occurs {t} ht := by
    have hswaps : Text.Swaps p.words (Set.range replacement) t (r.output stage t) :=
      (h.rewrites t).swaps fun m hm ↦
        ⟨m.text, ⟨_, hm⟩, replacement m, Set.mem_range_self m, [], by simp, by simp⟩
    exact hswaps.symm.occurs_of_occurs ((Shape.apart_words hapart).mono hW p.words_subset) ht

theorem occurs_applyAll_of_retains (h : ∀ r ∈ rs, r.Retains W stage) (ht : Text.Occurs W t) :
    Text.Occurs W (applyAll rs stage outer t).text := by
  induction rs generalizing t with
  | nil => rwa [text_applyAll_nil]
  | cons r rs ih =>
    obtain ⟨hr, hrs⟩ := List.forall_mem_cons.1 h
    rw [text_applyAll_cons hr.applicable]
    exact ih hrs (hr.occurs ht)

end Rule

/-! ## What passes the checks -/

namespace Finished

variable {stage : Stage} {t : Text}

theorem flag_eq_nil_iff {condition : Bool} {v : Violation} :
    flag condition v = [] ↔ condition = false := by
  cases condition <;> simp [flag]

/-- What a text that passes the checks does not hold. -/
structure Clean (stage : Stage) (t : Text) : Prop where
  version : Text.includes t "version 300 es".toList = false
  cube : Text.includes t "czm_textureCube".toList = false
  sampling : Text.includes t "texture(".toList = false
  inputs : modernInput.occursIn t = false
  indexed : stage = .fragment → Pattern.anyIndexedOutput.occursIn t = false
  single : stage = .fragment → Text.includes t "out_FragColor".toList = false

theorem clean_of_check_eq_nil (h : check stage t = []) : Clean stage t := by
  simp only [check, checkVersion, checkSampling, checkInputs, List.append_eq_nil_iff,
    flag_eq_nil_iff, modernInputTypes_isEmpty, Bool.not_not] at h
  obtain ⟨⟨⟨⟨hversion, hcube, hsampling⟩, hinputs⟩, houtputs⟩, -⟩ := h
  refine ⟨hversion, hcube, hsampling, hinputs, ?_, ?_⟩ <;>
    rintro rfl <;>
    simp only [checkOutputs, Stage.isFragment, if_true, List.append_eq_nil_iff,
      flag_eq_nil_iff] at houtputs
  · exact houtputs.1.1
  · exact houtputs.1.2

end Finished

/-! ## What the rules of the chain retain -/

namespace Chain

variable {W : Set Text} {ws : List Shape} {stage : Stage}

/-- The rules that qualify inputs and outputs. -/
def qualifiers : List Rule := [fragmentInput, vertexInput, vertexOutput]

/-- The rules for the outputs that have no number. -/
def plainOutputs : List Rule :=
  [singleRename, singleElementRename, singleLayoutRemoval, depthOutput]

theorem late_eq : late = qualifiers ++ indexedOutputs :: plainOutputs := rfl

/-- Shapes of what each of the rules for outputs without a number takes out. -/
def plainOutputPieces : List (List Shape) :=
  [(Pattern.ofWord "out_FragColor").shapes, Pattern.singleOutputElement.shapes,
    Pattern.singleLayout.shapes, [.depth].flatMap Exchange.taken]

/-- Shapes of what each of the rules for outputs takes out. -/
def outputPieces : List (List Shape) :=
  Pattern.indexedLayout.shapes :: [.indexed].flatMap Exchange.taken :: plainOutputPieces

/-- Shapes of what each of the rules that run late takes out; the types of inputs stay. -/
def latePieces : List (List Shape) :=
  [.input ""].flatMap Exchange.taken :: [.output].flatMap Exchange.taken :: outputPieces

/-- An input rule retains what is apart from the keyword and the blanks behind it. -/
theorem retains_input {r : Rule} {keyword : String}
    (h : r.Replaces stage .inputDeclaration fun m ↦ keyword.toList ++ m.group 2)
    (hW : W ⊆ Shape.words ws)
    (hapart : Shape.apart ws ([.input ""].flatMap Exchange.taken) = true) :
    r.Retains W stage where
  applicable := h.applicable
  occurs ht := (exchanged_input h _).1.occurs ((Shape.apart_words hapart).mono hW (le_refl _)) ht

theorem retains_vertexOutput (hW : W ⊆ Shape.words ws)
    (hapart : Shape.apart ws ([.output].flatMap Exchange.taken) = true) :
    vertexOutput.Retains W stage := by
  cases stage with
  | fragment => exact Rule.retains_of_not_admits rfl
  | vertex =>
    refine ⟨replaces_vertexOutput.applicable, fun ht ↦ ?_⟩
    exact (exchanged_vertexOutput _).occurs ((Shape.apart_words hapart).mono hW (le_refl _)) ht

theorem retains_plainOutputs (hW : W ⊆ Shape.words ws)
    (hapart : ∀ ps ∈ plainOutputPieces, Shape.apart ws ps = true) :
    ∀ r ∈ plainOutputs, r.Retains W stage := by
  simp only [plainOutputPieces, List.forall_mem_cons] at hapart
  obtain ⟨hsingle, helement, hlayout, hdepth, -⟩ := hapart
  simp only [plainOutputs, List.forall_mem_cons]
  cases stage with
  | vertex =>
    exact ⟨Rule.retains_of_not_admits rfl, Rule.retains_of_not_admits rfl,
      Rule.retains_of_not_admits rfl, Rule.retains_of_not_admits rfl, by simp⟩
  | fragment =>
    refine ⟨replaces_singleRename.retains hW hsingle,
      replaces_singleElementRename.retains hW helement,
      replaces_singleLayoutRemoval.retains hW hlayout, ⟨applicable_depthOutput, ?_⟩, by simp⟩
    exact occurs_depthOutput ((Shape.apart_words hdepth).mono hW (le_refl _))

theorem retains_outputs (hW : W ⊆ Shape.words ws)
    (hapart : ∀ ps ∈ outputPieces, Shape.apart ws ps = true) :
    ∀ r ∈ indexedOutputs :: plainOutputs, r.Retains W stage := by
  rw [outputPieces, List.forall_mem_cons, List.forall_mem_cons] at hapart
  obtain ⟨hlayout, hindexed, hplain⟩ := hapart
  rw [List.forall_mem_cons]
  refine ⟨?_, retains_plainOutputs hW hplain⟩
  cases stage with
  | vertex => exact Rule.retains_of_not_admits rfl
  | fragment => exact ⟨applicable_indexedOutputs, occurs_indexedOutputs hW hlayout hindexed⟩

theorem retains_late (hW : W ⊆ Shape.words ws)
    (hapart : ∀ ps ∈ latePieces, Shape.apart ws ps = true) : ∀ r ∈ late, r.Retains W stage := by
  rw [latePieces, List.forall_mem_cons, List.forall_mem_cons] at hapart
  obtain ⟨hinput, houtput, houtputs⟩ := hapart
  rw [late_eq, List.forall_mem_append]
  refine ⟨?_, retains_outputs hW houtputs⟩
  simp only [qualifiers, List.forall_mem_cons]
  cases stage with
  | vertex =>
    exact ⟨Rule.retains_of_not_admits rfl, retains_input replaces_vertexInput hW hinput,
      retains_vertexOutput hW houtput, by simp⟩
  | fragment =>
    exact ⟨retains_input replaces_fragmentInput hW hinput, Rule.retains_of_not_admits rfl,
      Rule.retains_of_not_admits rfl, by simp⟩

/-! ## Which rules are not missed -/

variable {t : Text}

/-- A rule is not missed if what it looks for is retained by the rules behind it, and is not in the
text that they leave. -/
theorem finds_eq_false_of_retains {rs : List Rule}
    (h : ∀ r ∈ rs, r.Retains W stage) {p : Pattern} (hplain : p.expr.Plain = true)
    (hp : p.words ⊆ W) (habsent : ¬ Text.Occurs W (Rule.applyAll rs stage "" t).text) :
    p.occursIn t = false := by
  rw [Pattern.occursIn_eq_false_iff hplain]
  rintro ⟨w, hw, hwt⟩
  exact habsent (Rule.occurs_applyAll_of_retains h ⟨w, hp hw, hwt⟩)

/-- A rule for a word is not missed in a text that does not have the word. -/
theorem finds_word_eq_false {rs : List Rule} {p : Pattern} {w : Text} (hp : p.expr = .word w)
    (h : ∀ r ∈ rs, r.Retains {w} stage)
    (habsent : Text.includes (Rule.applyAll rs stage "" t).text w = false) :
    p.occursIn t = false := by
  have hplain : p.expr.Plain = true := by
    rw [hp]
    exact Expr.plain_word w
  refine finds_eq_false_of_retains h hplain (Pattern.words_of_expr_eq_word hp).le ?_
  rw [Text.occurs_singleton, habsent]
  exact Bool.false_ne_true

/-- An input rule is not missed in a text that passes the checks. -/
theorem finds_inputDeclaration_eq_false {rs : List Rule}
    (h : ∀ r ∈ rs, r.Retains Pattern.inputDeclaration.words stage)
    (hclean : Finished.Clean stage (Rule.applyAll rs stage "" t).text) :
    Pattern.inputDeclaration.occursIn t = false := by
  refine finds_eq_false_of_retains h (by rfl) (le_refl _) ?_
  rw [← Pattern.words_modernInput, ← Pattern.occursIn_eq_false_iff (by rfl)]
  exact hclean.inputs

theorem latePieces_apart : ∀ ps ∈ latePieces, Shape.apart modernShapes ps = true := by
  decide +kernel

theorem retains_cubeSampler :
    ∀ r ∈ textureCall :: late, r.Retains {defaultCubeSampler.toList} stage := by
  have hW := singleton_subset_modernShapes (w := defaultCubeSampler) (by simp [modernWords])
  have hword : {defaultCubeSampler.toList} ⊆ Shape.words [.ofWord defaultCubeSampler.toList] :=
    (Shape.words_ofWord _).ge
  rw [List.forall_mem_cons]
  exact ⟨replaces_textureCall.retains hword (by cbv), retains_late hW latePieces_apart⟩

theorem outputPieces_apart : ∀ ps ∈ [.output].flatMap Exchange.taken :: outputPieces,
    Shape.apart Pattern.inputDeclaration.shapes ps = true := by
  decide +kernel

theorem plainOutputPieces_apart : ∀ ps ∈ plainOutputPieces,
    Shape.apart Pattern.anyIndexedOutput.shapes ps = true := by
  decide +kernel

end Chain

end ShaderDowngrade

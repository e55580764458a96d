import ShaderDowngrade.Proofs.Chain.Idle
import ShaderDowngrade.Proofs.Chain.Retained

/-!
# What rules and checks demand of a text

What a converted shader looks like is laid down twice. The rules demand it piece by piece, each of
them of the text that it has just left; the checks of finished texts demand it as a whole, and in
other words. Here the two are compared on texts of any origin, whether or not a rule has run on
them.

Main statement: `Chain.violations_eq_nil_iff_checks`, at the fragment stage both demand the same,
and at the vertex stage the rules demand one thing more.

## Where the two part

No check asks for the outputs of a vertex shader, while the rule for them forbids their
declarations. With the order of the directives it is the other way round: no rule asks for it, so
the check of the order has no part in the comparison. The deletion of layout declarations demands
nothing of its own, since each of them names a numbered output.
-/

namespace ShaderDowngrade

open Finished (flag_eq_nil_iff checkVersion checkSampling checkInputs checkOutputs)

/-! ## The outputs of a vertex shader -/

namespace Pattern

/-- The declaration of a named output, remembering its type only. -/
def namedOutput : Pattern :=
  ⟨"out\\s+(vec[0-9]|mat[0-9]|float)\\s+[A-z_0-9]+;",
    .seqAll (chars "out" ++ [blanks, .group 1 valueType, blanks,
      .some1 [.range 'A' 'z', .single '_', digit], .char ';'])⟩

example : Pattern.read namedOutput.spelling = .ok namedOutput := by cbv

open ShaderDowngrade.Expr in
theorem words_outputDeclaration : outputDeclaration.words = namedOutput.words := by
  have hexpr : outputDeclaration.expr = .seq (.group 1 (.word "out".toList)) (.seqAll [blanks,
      .group 2 valueType, blanks, .group 3 (.seqAll [.some1 [.range 'A' 'z', .single '_', digit]]),
      .char ';']) := rfl
  simp only [words, namedOutput, hexpr, chars, language_seqAll_map_char_append, seqAll,
    language_seq, language_group, language_word, language_empty, Set.image2_singleton_left,
    Set.image2_singleton_right, List.append_nil, Set.image_id']

theorem occursIn_outputDeclaration (t : Text) :
    outputDeclaration.occursIn t = namedOutput.occursIn t :=
  occursIn_eq_of_occurs_iff (by rfl) (by rfl) (by rw [words_outputDeclaration])

end Pattern

namespace Chain

open Rule (violations_of_not_admits violations_eq_nil_iff violations_eq_nil_iff_of_word
  violations_of_forbids_eq_none)

variable {stage : Stage} {t : Text}

/-! ## The rules together -/

theorem checkInputs_eq_nil_iff :
    checkInputs stage t = [] ↔ Pattern.inputDeclaration.occursIn t = false := by
  rw [checkInputs, flag_eq_nil_iff, Finished.modernInputTypes_isEmpty, Bool.not_not,
    Pattern.occursIn_inputDeclaration]

theorem checkOutputs_eq_nil_iff : checkOutputs .fragment t = [] ↔
    Pattern.anyIndexedOutput.occursIn t = false ∧
      Text.includes t "out_FragColor".toList = false ∧ Pattern.bareDepth.occursIn t = false := by
  rw [checkOutputs, Stage.isFragment, if_pos rfl, List.append_eq_nil_iff, List.append_eq_nil_iff,
    flag_eq_nil_iff, flag_eq_nil_iff, flag_eq_nil_iff, and_assoc]

theorem violations_early_eq_nil_iff : (∀ r ∈ early, r.violations stage t = []) ↔
    checkVersion t = [] ∧ checkSampling t = [] := by
  rw [early, List.forall_mem_cons, List.forall_mem_cons, List.forall_mem_singleton,
    versionDowngrade, cubeSampling, textureCall, violations_eq_nil_iff_of_word rfl rfl rfl,
    violations_eq_nil_iff_of_word rfl rfl rfl, violations_eq_nil_iff_of_word rfl rfl rfl,
    checkVersion, checkSampling, List.append_eq_nil_iff, flag_eq_nil_iff, flag_eq_nil_iff,
    flag_eq_nil_iff]
  rfl

theorem violations_late_fragment_eq_nil_iff : (∀ r ∈ late, r.violations .fragment t = []) ↔
    checkInputs .fragment t = [] ∧ checkOutputs .fragment t = [] := by
  have helement : singleElementRename.violations .fragment t = [] :=
    violations_of_forbids_eq_none rfl
  have hlayout : singleLayoutRemoval.violations .fragment t = [] :=
    violations_of_forbids_eq_none rfl
  simp only [late, List.forall_mem_cons]
  rw [violations_of_not_admits (r := vertexInput) rfl,
    violations_of_not_admits (r := vertexOutput) rfl, helement, hlayout,
    violations_indexedOutputs_eq_nil_iff, violations_depthOutput_eq_nil_iff, fragmentInput,
    singleRename, violations_eq_nil_iff rfl rfl, violations_eq_nil_iff_of_word rfl rfl rfl,
    checkInputs_eq_nil_iff, checkOutputs_eq_nil_iff]
  simp

theorem violations_late_vertex_eq_nil_iff : (∀ r ∈ late, r.violations .vertex t = []) ↔
    checkInputs .vertex t = [] ∧ Pattern.namedOutput.occursIn t = false := by
  simp only [late, List.forall_mem_cons]
  rw [violations_of_not_admits (r := fragmentInput) rfl,
    violations_of_not_admits (r := indexedOutputs) rfl,
    violations_of_not_admits (r := singleRename) rfl,
    violations_of_not_admits (r := singleElementRename) rfl,
    violations_of_not_admits (r := singleLayoutRemoval) rfl,
    violations_of_not_admits (r := depthOutput) rfl, vertexInput, vertexOutput,
    violations_eq_nil_iff rfl rfl, violations_eq_nil_iff rfl rfl, checkInputs_eq_nil_iff,
    Pattern.occursIn_outputDeclaration]
  simp

/-- **Rules and checks agree.** A text satisfies the postconditions of all rules of the chain at the
fragment stage exactly if the checks of the version, of sampling, of inputs and of outputs find
nothing wrong with it; at the vertex stage, exactly if moreover it declares no named output. -/
theorem violations_eq_nil_iff_checks (t : Text) :
    ((∀ r ∈ standard, r.violations .fragment t = []) ↔
      checkVersion t = [] ∧ checkSampling t = [] ∧ checkInputs .fragment t = [] ∧
        checkOutputs .fragment t = []) ∧
    ((∀ r ∈ standard, r.violations .vertex t = []) ↔
      (checkVersion t = [] ∧ checkSampling t = [] ∧ checkInputs .vertex t = [] ∧
        checkOutputs .vertex t = []) ∧ Pattern.namedOutput.occursIn t = false) := by
  have houtputs : checkOutputs .vertex t = [] := rfl
  rw [standard_eq, List.forall_mem_append, List.forall_mem_append, violations_early_eq_nil_iff,
    violations_early_eq_nil_iff, violations_late_fragment_eq_nil_iff,
    violations_late_vertex_eq_nil_iff, houtputs]
  constructor
  · rw [and_assoc]
  · simp only [and_assoc, true_and]

/-- A vertex shader may declare an output as far as the checks are concerned. -/
example : Finished.check .vertex "out vec4 v_color;".toList = [] ∧
    vertexOutput.violations .vertex "out vec4 v_color;".toList ≠ [] := by decide +kernel

end Chain

end ShaderDowngrade

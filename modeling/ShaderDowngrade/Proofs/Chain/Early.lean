import Mathlib.Data.List.Permutation
import ShaderDowngrade.Proofs.Chain.Exchange
import ShaderDowngrade.Proofs.StrictEnding

/-!
# The rules that run first

The version pragma, the cube sampler and the sampling calls are renamed at both stages, before
anything else. Afterwards the modern spellings are gone, with one exception: a cube sampler whose
name has the beginning of that name once more in front of it gives the name again.

Main statements: `Chain.includes_cubeSampling`, when the cube sampler comes about again;
`Chain.ending_standard`, the strict run over the chain in terms of the rules that run later.

## Why these rules are kept apart

The two stages have only these rules in common. What is said about the text that they leave, and
about a strict run up to there, is said once, and each stage goes on from it. The doubled name is
looked for in the source and not in the text that the rule for the sampler is given, since the rule
in front of it neither makes nor breaks one.
-/

namespace ShaderDowngrade.Chain

variable {stage : Stage} {source t : Text}

/-- The rules that run first. -/
def early : List Rule := [versionDowngrade, cubeSampling defaultCubeSampler, textureCall]

/-- The rules that run after those. -/
def late : List Rule :=
  [fragmentInput, vertexInput, vertexOutput, indexedOutputs, singleRename, singleElementRename,
    singleLayoutRemoval, depthOutput]

theorem standard_eq : standard = early ++ late := rfl

/-- The text that the first rules leave. -/
def renamed (stage : Stage) (source : Text) : Text := (Rule.applyAll early stage "" source).text

theorem renamed_eq (stage : Stage) (source : Text) : renamed stage source =
    textureCall.output stage ((cubeSampling defaultCubeSampler).output stage
      (versionDowngrade.output stage source)) := by
  rw [renamed, early, Rule.text_applyAll_cons replaces_versionDowngrade.applicable,
    Rule.text_applyAll_cons replaces_cubeSampling.applicable,
    Rule.text_applyAll_cons replaces_textureCall.applicable, Rule.text_applyAll_nil]

theorem applicable_early : ∀ r ∈ early, r.Applicable stage := by
  simp only [early, List.forall_mem_cons]
  exact ⟨replaces_versionDowngrade.applicable, replaces_cubeSampling.applicable,
    replaces_textureCall.applicable, by simp⟩

theorem downgrade_eq (stage : Stage) (source : Text) :
    downgrade stage source = (Rule.applyAll late stage "" (renamed stage source)).text := by
  rw [downgrade, standard_eq, Rule.text_applyAll_append applicable_early, renamed]

theorem exchanged_renamed (stage : Stage) (source : Text) :
    Exchanged [.version, .cube, .sampling] source (renamed stage source) := by
  rw [renamed_eq]
  exact ((exchanged_versionDowngrade source).trans (exchanged_cubeSampling _)).trans
    (exchanged_textureCall _)

/-! ## What is gone -/

theorem includes_versionDowngrade (t : Text) :
    Text.includes (versionDowngrade.output stage t) "version 300 es".toList = false :=
  replaces_versionDowngrade.includes_eq_false rfl (by cbv) (by rfl) t

theorem includes_textureCall (t : Text) :
    Text.includes (textureCall.output stage t) "texture(".toList = false :=
  replaces_textureCall.includes_eq_false rfl (by cbv) (by rfl) t

/-- The cube sampler is in the text again exactly if it stood behind the beginning of its own
name. -/
theorem includes_cubeSampling (t : Text) :
    Text.includes ((cubeSampling defaultCubeSampler).output stage t) "czm_textureCube".toList =
      Text.includes t "czm_czm_textureCube".toList := by
  have hwords : (Pattern.literal defaultCubeSampler.toList).words = {"czm_textureCube".toList} :=
    Pattern.words_of_expr_eq_word rfl
  have hstubs : Shape.stubs (Pattern.literal defaultCubeSampler.toList).shapes
      [.ofWord "textureCube".toList] = [.ofWord "czm_".toList] := by cbv
  have hreplaces : (cubeSampling defaultCubeSampler).Replaces stage _ _ := replaces_cubeSampling
  have hiff := hreplaces.occurs_iff_stub _ hstubs (fun _ _ ↦ by simp) (by rfl) (by cbv)
    (by cbv) (by cbv) (fun k hk m _ ↦ by
      rw [Shape.words_ofWord, Set.mem_singleton_iff] at hk
      rw [hwords, hk]
      exact ⟨_, rfl, List.prefix_refl _⟩) t
  rw [hwords, Shape.words_ofWord, Set.image2_singleton, Text.occurs_singleton,
    Text.occurs_singleton] at hiff
  exact Bool.eq_iff_iff.2 hiff

theorem includes_renamed_version (stage : Stage) (source : Text) :
    Text.includes (renamed stage source) "version 300 es".toList = false := by
  rw [renamed_eq]
  exact ((exchanged_cubeSampling _).trans (exchanged_textureCall _)).includes_eq_false
    (by cbv) (includes_versionDowngrade source)

/-- The first rule handles nothing that could make or break a sampler behind the beginning of its
own name. -/
theorem includes_versionDowngrade_doubled (source : Text) :
    Text.includes (versionDowngrade.output stage source) "czm_czm_textureCube".toList =
      Text.includes source "czm_czm_textureCube".toList :=
  (exchanged_versionDowngrade source).includes_eq (by cbv) (by cbv)

theorem includes_renamed_cube (h : Text.includes source "czm_czm_textureCube".toList = false)
    (stage : Stage) : Text.includes (renamed stage source) defaultCubeSampler.toList = false := by
  rw [renamed_eq]
  refine (exchanged_textureCall _).includes_modern_eq_false (by simp [Exchange.later])
    (by simp [modernWords]) ?_
  exact (includes_cubeSampling _).trans ((includes_versionDowngrade_doubled source).trans h)

theorem includes_renamed_sampling (stage : Stage) (source : Text) :
    Text.includes (renamed stage source) "texture(".toList = false := by
  rw [renamed_eq]
  exact includes_textureCall _

/-! ## The strict run -/

theorem violations_versionDowngrade (t : Text) :
    versionDowngrade.violations stage (versionDowngrade.output stage t) = [] :=
  (Rule.violations_eq_nil_iff_of_word rfl rfl rfl).2 (includes_versionDowngrade t)

theorem violations_textureCall (t : Text) :
    textureCall.violations stage (textureCall.output stage t) = [] :=
  (Rule.violations_eq_nil_iff_of_word rfl rfl rfl).2 (includes_textureCall t)

theorem violations_cubeSampling (t : Text) :
    (cubeSampling defaultCubeSampler).violations stage
      ((cubeSampling defaultCubeSampler).output stage t) =
      if Text.includes t "czm_czm_textureCube".toList = true then
        [.patternPresent "CubeSamplingRename" "czm_textureCube"] else [] := by
  rw [← @includes_cubeSampling stage, cubeSampling, Substitution.violations_of_forbids rfl rfl,
    Pattern.occursIn_of_expr_eq_word rfl]
  rfl

/-- The strict run ends at the cube sampler if it comes about again, and otherwise goes on with the
later rules. -/
theorem ending_standard (stage : Stage) (source : Text) :
    StrictRun.ending standard stage source =
      if Text.includes source "czm_czm_textureCube".toList = true then
        .error (.violated "CubeSamplingRename"
          [.patternPresent "CubeSamplingRename" "czm_textureCube"])
      else StrictRun.ending late stage (renamed stage source) := by
  rw [standard_eq, early, List.cons_append, StrictRun.ending_cons_of_smooth
    replaces_versionDowngrade.applicable (violations_versionDowngrade source), List.cons_append,
    StrictRun.ending_cons replaces_cubeSampling.applicable, violations_cubeSampling,
    includes_versionDowngrade_doubled]
  split
  · rfl
  · rw [if_pos rfl, List.cons_append, StrictRun.ending_cons_of_smooth
      replaces_textureCall.applicable (violations_textureCall _), renamed_eq, List.nil_append]

end ShaderDowngrade.Chain

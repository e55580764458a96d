import ShaderDowngrade.Proofs.Chain.Changes
import ShaderDowngrade.Proofs.Chain.FragmentText

/-!
# Texts that the chain leaves alone

The rules of the chain raise a weight, so a list of them leaves a text as it is exactly if none of
them takes effect on it. Here this is put in terms of the text: what must not be in it so that the
first rules, the later rules of the vertex stage, or those of the fragment stage find nothing.

The two rules behind the renaming of the single output ask for nothing of their own: what they look
for has that output in it.

Main statements: `Chain.idle_early_iff`, `Chain.idle_late_vertex_iff` and
`Chain.idle_late_fragment_iff`.
-/

namespace ShaderDowngrade

namespace Chain

variable {stage : Stage} {t : Text}

theorem downgrade_eq_self_iff : downgrade stage t = t ↔
    ∀ r ∈ standard, r.takesEffect stage t = false :=
  Rule.Raises.text_applyAll_eq_iff raises_standard

theorem takesEffect_of_word {r : Substitution} {w : Text} (hw : r.pattern.expr = .word w)
    (hgate : r.gate.admits stage = true) :
    (Rule.substitute r).takesEffect stage t = Text.includes t w := by
  rw [← Pattern.occursIn_of_expr_eq_word hw]
  exact Rule.takesEffect_of_admits hgate

theorem takesEffect_depthOutput (t : Text) :
    depthOutput.takesEffect .fragment t = Text.includes t "gl_FragDepth".toList := by
  rw [← Pattern.occursIn_of_expr_eq_word (p := .ofWord "gl_FragDepth") rfl]
  exact Rule.takesEffect_of_admits rfl

theorem raises_early : ∀ r ∈ early, r.Raises gain stage := by
  intro r hr
  refine raises_standard r ?_
  rw [standard_eq]
  exact List.mem_append_left late hr

/-- The first rules leave a text alone exactly if it has none of their words. -/
theorem idle_early_iff : (∀ r ∈ early, r.takesEffect stage t = false) ↔
    Text.includes t "version 300 es".toList = false ∧
      Text.includes t defaultCubeSampler.toList = false ∧
      Text.includes t "texture(".toList = false := by
  have hversion : versionDowngrade.takesEffect stage t = Text.includes t "version 300 es".toList :=
    takesEffect_of_word rfl rfl
  have hcube : (cubeSampling defaultCubeSampler).takesEffect stage t =
      Text.includes t defaultCubeSampler.toList := takesEffect_of_word rfl rfl
  have hcall : textureCall.takesEffect stage t = Text.includes t "texture(".toList :=
    takesEffect_of_word rfl rfl
  simp [early, hversion, hcube, hcall]

/-- At the vertex stage, the later rules leave a text alone exactly if it declares no inputs and no
outputs. -/
theorem idle_late_vertex_iff : (∀ r ∈ late, r.takesEffect .vertex t = false) ↔
    Finished.modernInput.occursIn t = false ∧ Pattern.outputDeclaration.occursIn t = false := by
  have hinput : vertexInput.takesEffect .vertex t = Finished.modernInput.occursIn t :=
    (Rule.takesEffect_of_admits rfl).trans (Pattern.occursIn_inputDeclaration t)
  have houtput : vertexOutput.takesEffect .vertex t = Pattern.outputDeclaration.occursIn t :=
    Rule.takesEffect_of_admits rfl
  have hother : ∀ r ∈ [fragmentInput, indexedOutputs, singleRename, singleElementRename,
      singleLayoutRemoval, depthOutput], r.takesEffect .vertex t = false := by
    have hgate : ∀ r ∈ [fragmentInput, indexedOutputs, singleRename, singleElementRename,
        singleLayoutRemoval, depthOutput], r.admits .vertex = false := by decide
    exact fun r hr ↦ Rule.takesEffect_of_not_admits (hgate r hr)
  simp only [List.forall_mem_cons] at hother
  simp [late, hinput, houtput, hother]

theorem raises_beforeDepth : ∀ r ∈ beforeDepth, r.Raises gain .fragment := by
  intro r hr
  refine liftsFragment_gain.raises_late r ?_
  rw [late_eq_beforeDepth]
  exact List.mem_append_left [depthOutput] hr

/-- At the fragment stage, the rules before the depth group leave a text alone exactly if it
declares no inputs and has neither of the outputs. -/
theorem idle_beforeDepth_iff : (∀ r ∈ beforeDepth, r.takesEffect .fragment t = false) ↔
    Finished.modernInput.occursIn t = false ∧ Pattern.anyIndexedOutput.occursIn t = false ∧
      Text.includes t "out_FragColor".toList = false := by
  have hinput : fragmentInput.takesEffect .fragment t = Finished.modernInput.occursIn t :=
    (Rule.takesEffect_of_admits rfl).trans (Pattern.occursIn_inputDeclaration t)
  have hindexed : indexedOutputs.takesEffect .fragment t = Pattern.anyIndexedOutput.occursIn t :=
    (Rule.takesEffect_of_admits rfl).trans (Pattern.occursIn_indexedOutput t)
  have hsingle : singleRename.takesEffect .fragment t =
      Text.includes t "out_FragColor".toList := takesEffect_of_word rfl rfl
  have hvertex : vertexInput.takesEffect .fragment t = false ∧
      vertexOutput.takesEffect .fragment t = false :=
    ⟨Rule.takesEffect_of_not_admits rfl, Rule.takesEffect_of_not_admits rfl⟩
  -- without the single output the two rules behind its renaming change nothing
  have hbehind (h : Text.includes t "out_FragColor".toList = false) :
      singleElementRename.takesEffect .fragment t = false ∧
        singleLayoutRemoval.takesEffect .fragment t = false := by
    obtain ⟨helement, hlayout⟩ := output_of_not_includes h
    exact ⟨liftsFragment_gain.raises_singleElementRename.output_eq_iff.1 helement,
      liftsFragment_gain.raises_singleLayoutRemoval.output_eq_iff.1 hlayout⟩
  simp only [beforeDepth, List.forall_mem_cons, hinput, hvertex, hindexed, hsingle]
  constructor
  · rintro ⟨hi, -, -, hx, hs, -⟩
    exact ⟨hi, hx, hs⟩
  · rintro ⟨hi, hx, hs⟩
    exact ⟨hi, trivial, trivial, hx, hs, (hbehind hs).1, (hbehind hs).2, by simp⟩

/-- At the fragment stage, the later rules leave a text alone exactly if it declares no inputs and
has none of the outputs that they rename. -/
theorem idle_late_fragment_iff : (∀ r ∈ late, r.takesEffect .fragment t = false) ↔
    (Finished.modernInput.occursIn t = false ∧ Pattern.anyIndexedOutput.occursIn t = false ∧
      Text.includes t "out_FragColor".toList = false) ∧
      Text.includes t "gl_FragDepth".toList = false := by
  rw [late_eq_beforeDepth, List.forall_mem_append, idle_beforeDepth_iff,
    List.forall_mem_singleton, takesEffect_depthOutput]

end Chain

end ShaderDowngrade

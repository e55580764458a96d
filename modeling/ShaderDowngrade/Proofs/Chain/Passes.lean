import ShaderDowngrade.Proofs.Chain.Idle
import ShaderDowngrade.Proofs.Chain.Retained
import ShaderDowngrade.Proofs.Chain.VertexVerdict
import ShaderDowngrade.Proofs.Pattern.Extension

/-!
# Converting again

A converted shader may be converted once more. At the vertex stage the second pass changes nothing,
unless the first has left something that the rules look for, and what that can be is told from the
text before. At the fragment stage, with the layout declarations in places of their own, nothing is
left over but the depth output: what it is renamed to has the old name in it. So each pass puts its
directive in front and gives the name another suffix.

Main statement: `Chain.downgrade_again`, two passes at the vertex stage and any number of them at
the fragment stage.

## The invariant of the passes

A text that is clean, the order of its directives aside, is one that only the depth group can
change, and the depth group leaves it clean. So all passes after the first are passes of that group
alone, and an induction on their number can count directives and suffixes: neither is in the way of
the name (`Pattern.replaceWith_extend`, `Pattern.Keeps.replaceWith_append`).
-/

namespace ShaderDowngrade

namespace Chain

open Finished (Clean)
open Pattern (interruptedInput)

variable {stage : Stage} {source t : Text} {k : ℕ}

/-! ## The second pass at the vertex stage -/

/-- The cube sampler is in the converted vertex shader exactly if its name has its own beginning in
front of it in the source. -/
theorem includes_cubeSampler_vertex (source : Text) :
    Text.includes (downgrade .vertex source) defaultCubeSampler.toList =
      Text.includes source "czm_czm_textureCube".toList := by
  cases h : Text.includes source "czm_czm_textureCube".toList with
  | false =>
    rw [downgrade_vertex]
    exact includes_vertexText (by simp [modernWords]) (includes_renamed_cube h .vertex)
  | true =>
    have hcube : Text.Occurs {defaultCubeSampler.toList}
        ((cubeSampling defaultCubeSampler).output .vertex
          (versionDowngrade.output .vertex source)) := by
      rw [Text.occurs_singleton]
      exact (includes_cubeSampling _).trans ((includes_versionDowngrade_doubled source).trans h)
    rw [← Text.occurs_singleton, downgrade_eq, renamed_eq,
      ← Rule.text_applyAll_cons replaces_textureCall.applicable]
    exact Rule.occurs_applyAll_of_retains retains_cubeSampler hcube

/-- The converted vertex shader declares an input in the modern way exactly if one was
interrupted. -/
theorem occursIn_modernInput_vertex (source : Text) :
    Finished.modernInput.occursIn (downgrade .vertex source) =
      interruptedInput.occursIn (renamed .vertex source) := by
  have hput : Shape.apart Pattern.inputDeclaration.shapes
      ([.output].flatMap Exchange.put) = true := by cbv
  have hexchanged := exchanged_vertexOutput (vertexInput.output .vertex (renamed .vertex source))
  rw [← Pattern.occursIn_inputDeclaration, ← occursIn_vertexInput, downgrade_vertex, vertexText]
  exact Pattern.occursIn_eq_of_occurs_iff (by rfl) (by rfl) (hexchanged.occurs_iff
    Pattern.inputDeclaration.words_subset (List.forall_mem_cons.1 outputPieces_apart).1 hput)

/-- A second pass changes a converted vertex shader exactly if something has been left over. -/
theorem downgrade_vertex_again (source : Text) :
    downgrade .vertex (downgrade .vertex source) = downgrade .vertex source ↔
      Text.includes source "czm_czm_textureCube".toList = false ∧
        interruptedInput.occursIn (renamed .vertex source) = false := by
  have hversion : Text.includes (downgrade .vertex source) "version 300 es".toList = false := by
    rw [downgrade_vertex]
    exact includes_vertexText (by simp [modernWords]) (includes_renamed_version .vertex source)
  have hcall : Text.includes (downgrade .vertex source) "texture(".toList = false := by
    rw [downgrade_vertex]
    exact includes_vertexText (by simp [modernWords]) (includes_renamed_sampling .vertex source)
  have houtput : Pattern.outputDeclaration.occursIn (downgrade .vertex source) = false := by
    rw [downgrade_vertex]
    exact occursIn_vertexOutput _
  rw [downgrade_eq_self_iff, standard_eq, List.forall_mem_append,
    idle_early_iff, idle_late_vertex_iff, includes_cubeSampler_vertex,
    occursIn_modernInput_vertex, hversion, hcall, houtput]
  exact ⟨fun h ↦ ⟨h.1.2.1, h.2.1⟩, fun h ↦ ⟨⟨rfl, h.1, rfl⟩, h.2, rfl⟩⟩

/-! ## Clean fragment shaders -/

/-- A converted fragment shader whose layout declarations stood in places of their own is clean. -/
theorem clean_downgrade_fragment (hlines : LayoutsStartLines source)
    (hin : NoLayoutBehindIn source)
    (hcube : Text.includes source "czm_czm_textureCube".toList = false) :
    Clean .fragment (downgrade .fragment source) := by
  have houtputs := checkOutputs_fragmentText source
  simp only [Finished.checkOutputs, Stage.isFragment, if_true, List.append_eq_nil_iff,
    Finished.flag_eq_nil_iff] at houtputs
  rw [downgrade_fragment]
  exact {
    version := includes_fragmentText hlines (by simp [modernWords])
      (includes_renamed_version .fragment source)
    cube := includes_fragmentText (w := defaultCubeSampler) hlines (by simp [modernWords])
      (includes_renamed_cube hcube .fragment)
    sampling := includes_fragmentText hlines (by simp [modernWords])
      (includes_renamed_sampling .fragment source)
    inputs := occursIn_modernInput_fragmentText hlines hin
    indexed := fun _ ↦ houtputs.1.1
    single := fun _ ↦ houtputs.1.2 }

theorem downgrade_of_clean (h : Clean .fragment t) :
    downgrade .fragment t = depthOutput.output .fragment t := by
  have hearly : renamed .fragment t = t :=
    (Rule.Raises.text_applyAll_eq_iff raises_early).2
      (idle_early_iff.2 ⟨h.version, h.cube, h.sampling⟩)
  have hbefore : (Rule.applyAll beforeDepth .fragment "" t).text = t :=
    (Rule.Raises.text_applyAll_eq_iff raises_beforeDepth).2
      (idle_beforeDepth_iff.2 ⟨h.inputs, h.indexed rfl, h.single rfl⟩)
  rw [downgrade_eq, hearly, late_eq_beforeDepth,
    Rule.text_applyAll_append applicable_beforeDepth, hbefore,
    Rule.text_applyAll_cons applicable_depthOutput, Rule.text_applyAll_nil]

theorem clean_depthOutput (h : Clean .fragment t) :
    Clean .fragment (depthOutput.output .fragment t) := by
  have hexchanged := exchanged_depthOutput t
  have hmodern {w : String} (hw : w ∈ modernWords) (ht : Text.includes t w.toList = false) :
      Text.includes (depthOutput.output .fragment t) w.toList = false :=
    hexchanged.includes_modern_eq_false (by simp [Exchange.later]) hw ht
  have habsent {p : Pattern} (hplain : p.expr.Plain = true)
      (hput : Shape.apart p.shapes
        ([.directive fragDepthDirective, .depth].flatMap Exchange.put) = true)
      (ht : p.occursIn t = false) : p.occursIn (depthOutput.output .fragment t) = false := by
    rw [Pattern.occursIn_eq_false_iff hplain] at ht ⊢
    exact fun hocc ↦ ht (hexchanged.occurs_of_occurs p.words_subset hput hocc)
  exact {
    version := hmodern (by simp [modernWords]) h.version
    cube := hmodern (w := defaultCubeSampler) (by simp [modernWords]) h.cube
    sampling := hmodern (by simp [modernWords]) h.sampling
    inputs := habsent (by rfl) (by cbv) h.inputs
    indexed := fun _ ↦ habsent (by rfl) (by cbv) (h.indexed rfl)
    single := fun _ ↦ hexchanged.includes_eq_false (by cbv) (h.single rfl) }

theorem iterate_downgrade_of_clean (h : Clean .fragment t) (k : ℕ) :
    (downgrade .fragment)^[k] t = (depthOutput.output .fragment)^[k] t := by
  induction k generalizing t with
  | zero => rw [Function.iterate_zero_apply, Function.iterate_zero_apply]
  | succ k ih =>
    rw [Function.iterate_succ_apply, Function.iterate_succ_apply, downgrade_of_clean h]
    exact ih (clean_depthOutput h)

/-! ## Passes of the depth group -/

/-- So many suffixes. -/
def suffixes (k : ℕ) : Text := (List.replicate k "EXT".toList).flatten

/-- So many lines with the depth directive. -/
def depthHeader (k : ℕ) : Text := (List.replicate k (directiveLine fragDepthDirective)).flatten

/-- The text with so many suffixes at each depth output. -/
def suffixed (k : ℕ) (t : Text) : Text :=
  (Pattern.ofWord "gl_FragDepth").replaceWith (fun _ ↦ "gl_FragDepth".toList ++ suffixes k) t

theorem suffixes_succ (k : ℕ) : suffixes (k + 1) = "EXT".toList ++ suffixes k := by
  rw [suffixes, List.replicate_succ, List.flatten_cons, suffixes]

theorem depthHeader_succ (k : ℕ) :
    depthHeader (k + 1) = directiveLine fragDepthDirective ++ depthHeader k := by
  rw [depthHeader, List.replicate_succ, List.flatten_cons, depthHeader]

theorem keeps_depthHeader (k : ℕ) : (Pattern.ofWord "gl_FragDepth").Keeps (depthHeader k) := by
  have hline : (Pattern.ofWord "gl_FragDepth").Keeps (directiveLine fragDepthDirective) :=
    keeps_of_mem_soughtLate (by decide +kernel) _ (by decide +kernel)
  induction k with
  | zero => exact Pattern.keeps_nil _
  | succ k ih =>
    rw [depthHeader_succ]
    exact hline.append ih

theorem notMem_suffixes (k : ℕ) : 'g' ∉ suffixes k := by
  rw [suffixes, List.mem_flatten]
  rintro ⟨e, he, hg⟩
  rw [List.eq_of_mem_replicate he] at hg
  exact absurd hg (by decide)

theorem rewrites_suffixed (k : ℕ) (t : Text) :
    (Pattern.ofWord "gl_FragDepth").Rewrites (fun _ ↦ "gl_FragDepth".toList ++ suffixes k) t
      (suffixed k t) :=
  Pattern.rewrites_replaceWith (by rfl) (Pattern.nil_notMem_words (by rfl)) _ t

theorem suffixed_zero (t : Text) : suffixed 0 t = t :=
  (rewrites_suffixed 0 t).eq_of_same (by rfl)

theorem replaceWith_suffixed (k : ℕ) (t : Text) :
    (Pattern.ofWord "gl_FragDepth").replaceWith (fun _ ↦ "gl_FragDepthEXT".toList)
      (suffixed k t) = suffixed (k + 1) t := by
  have hborder : Text.ReachesBy ∅ {"gl_FragDepth".toList} {"gl_FragDepth".toList} := by
    rw [← Shape.words_ofWord]
    exact Shape.reachesBy_of_stubs_eq_nil (by cbv)
  have hout : Text.Outside {"gl_FragDepth".toList} {suffixes k} :=
    Text.outside_of_notMem (notMem_suffixes k)
  have hextend := Pattern.replaceWith_extend (p := .ofWord "gl_FragDepth") (x := "EXT".toList)
    (by rfl) (by decide) hborder hout t
  rw [← suffixes_succ] at hextend
  exact hextend

theorem includes_suffixed (h : Text.includes t "gl_FragDepth".toList = true) (k : ℕ) :
    Text.includes (suffixed k t) "gl_FragDepth".toList = true := by
  have hocc : Text.Occurs (Pattern.ofWord "gl_FragDepth").words t := by
    rw [Pattern.words_of_expr_eq_word (by rfl), Text.occurs_singleton]
    exact h
  obtain ⟨m, -, hi⟩ := (rewrites_suffixed k t).exists_replacement hocc
    (Pattern.nil_notMem_words (by rfl))
  exact Text.includes_iff.2 ((List.prefix_append "gl_FragDepth".toList _).isInfix.trans hi)

theorem depthOutput_suffixed (h : Text.includes t "gl_FragDepth".toList = true) (k : ℕ) :
    depthOutput.output .fragment (depthHeader k ++ suffixed k t) =
      depthHeader (k + 1) ++ suffixed (k + 1) t := by
  have hin : Text.includes (depthHeader k ++ suffixed k t) "gl_FragDepth".toList = true :=
    Text.includes_iff.2 ((Text.includes_iff.1 (includes_suffixed h k)).trans
      (List.suffix_append _ _).isInfix)
  have hheader : prependDirective fragDepthDirective (depthHeader k ++ suffixed k t) =
      depthHeader (k + 1) ++ suffixed k t := by
    rw [depthHeader_succ, List.append_assoc]
    rfl
  rw [depthOutput_output, if_pos hin, hheader, replaces_depthRename.output_eq,
    (keeps_depthHeader (k + 1)).replaceWith_append, replaceWith_suffixed]

/-- **Passes of the depth group** put as many directives in front and give the depth output as many
suffixes. -/
theorem iterate_depthOutput (h : Text.includes t "gl_FragDepth".toList = true) (k : ℕ) :
    (depthOutput.output .fragment)^[k] t = depthHeader k ++ suffixed k t := by
  induction k with
  | zero => rw [Function.iterate_zero_apply, suffixed_zero, depthHeader, List.replicate_zero,
      List.flatten_nil, List.nil_append]
  | succ k ih => rw [Function.iterate_succ_apply', ih, depthOutput_suffixed h]

/-! ## All passes -/

theorem text_plainRun_ten (source : Text) :
    (Rule.plainRun standard .fragment source 10).text = singled source := by
  have hten : standard.take 10 = early ++ beforeDepth := rfl
  rw [Rule.plainRun, hten, Rule.text_applyAll_append applicable_early, ← renamed,
    text_applyAll_beforeDepth]

/-- From the first pass on, passes are passes of the depth group. -/
theorem iterate_downgrade_fragment (hlines : LayoutsStartLines source)
    (hin : NoLayoutBehindIn source)
    (hcube : Text.includes source "czm_czm_textureCube".toList = false) (k : ℕ) :
    (downgrade .fragment)^[k + 1] source =
      (depthOutput.output .fragment)^[k + 1] (singled source) := by
  rw [Function.iterate_succ_apply, Function.iterate_succ_apply,
    iterate_downgrade_of_clean (clean_downgrade_fragment hlines hin hcube), downgrade_fragment,
    fragmentText]

/-- **Converting again.** A second pass changes nothing in a converted vertex shader, unless the
cube sampler stood behind the beginning of its own name or a declaration was interrupted. Of a
fragment shader whose layout declarations stand in places of their own, any number of passes makes
what one pass makes, if it has no depth output; otherwise each pass adds one directive, and one
suffix to each depth output. -/
theorem downgrade_again :
    (∀ source, downgrade .vertex (downgrade .vertex source) = downgrade .vertex source ↔
      Text.includes source "czm_czm_textureCube".toList = false ∧
        interruptedInput.occursIn (Rule.applyAll [versionDowngrade,
          cubeSampling defaultCubeSampler, textureCall] .vertex "" source).text = false) ∧
    ∀ source, Text.includes source "czm_czm_textureCube".toList = false →
      LayoutsStartLines source → NoLayoutBehindIn source → ∀ k ≥ 1,
        (Text.includes source "gl_FragDepth".toList = false →
          (downgrade .fragment)^[k] source = downgrade .fragment source) ∧
        (Text.includes source "gl_FragDepth".toList = true →
          (downgrade .fragment)^[k] source =
            (List.replicate k (fragDepthDirective.toList ++ directiveSeparator)).flatten ++
              (Pattern.ofWord "gl_FragDepth").replaceWith
                (fun _ ↦ "gl_FragDepth".toList ++ (List.replicate k "EXT".toList).flatten)
                (Rule.plainRun standard .fragment source 10).text) := by
  refine ⟨downgrade_vertex_again, fun source hcube hlines hin k hk ↦ ?_⟩
  obtain ⟨k, rfl⟩ := Nat.exists_eq_succ_of_ne_zero (Nat.one_le_iff_ne_zero.1 hk)
  have hsingled : Text.includes (singled source) "gl_FragDepth".toList =
      Text.includes source "gl_FragDepth".toList := includes_singled hlines (by simp [depthWords])
  rw [Nat.succ_eq_add_one, iterate_downgrade_fragment hlines hin hcube, text_plainRun_ten]
  constructor
  · intro hdepth
    have hidle : depthOutput.output .fragment (singled source) = singled source := by
      rw [liftsFragment_gain.raises_depthOutput.output_eq_iff, takesEffect_depthOutput, hsingled,
        hdepth]
    rw [Function.iterate_fixed hidle, downgrade_fragment, fragmentText, hidle]
  · intro hdepth
    exact iterate_depthOutput (hsingled.trans hdepth) (k + 1)

/-- Three passes over a fragment shader with a numbered output and the depth output, three over one
without them, and a vertex shader that the second pass changes. -/
theorem downgrade_again_three_times :
    (downgrade .fragment)^[3] ("layout (location = 0) vec4 out_FragData_0;\n".toList ++
        "gl_FragDepth = out_FragData_0.x;".toList) =
      "#extension GL_EXT_frag_depth : enable\n ".toList ++
        "#extension GL_EXT_frag_depth : enable\n ".toList ++
        "#extension GL_EXT_frag_depth : enable\n ".toList ++
        "#extension GL_EXT_draw_buffers : enable\n ".toList ++
        "\ngl_FragDepthEXTEXTEXT = gl_FragData[0].x;".toList ∧
      (downgrade .fragment)^[3] "in vec2 v;".toList = downgrade .fragment "in vec2 v;".toList ∧
      downgrade .vertex (downgrade .vertex "in floin vec3 a;".toList) ≠
        downgrade .vertex "in floin vec3 a;".toList := by
  refine ⟨?_, ?_, fun h ↦ ?_⟩
  · rw [(downgrade_again.2 _ (by decide +kernel) (by decide +kernel) (by decide +kernel) 3
      (by decide)).2 (by decide +kernel)]
    decide +kernel
  · exact (downgrade_again.2 _ (by decide +kernel) (by decide +kernel) (by decide +kernel) 3
      (by decide)).1 (by decide +kernel)
  · exact absurd ((downgrade_again.1 _).1 h).2 (by decide +kernel)

end Chain

end ShaderDowngrade

import ShaderDowngrade.Proofs.Chain.FragmentVerdict
import ShaderDowngrade.Proofs.Rule.Header

/-!
# The directives of the chain

Whatever the cube sampler is called, the output of the chain is a header of directives, those that
the ledger lists, and then the output of the chain without them. Only fragment shaders get any, and
the directive for the depth stands first.

Main statement: `Chain.run_header`, which directives a source gets, and where they stand.

## What the name of the cube sampler may do

It may be part of a directive, or empty, and it may destroy numbered outputs or make some. But the
sampler is renamed before any directive is put in front, so the header is not in its reach; which
directives the header has is told from the source only for the usual name.
-/

namespace ShaderDowngrade.Chain

variable {stage : Stage} {source t : Text} {cubeSampler : String}

/-- The directives that the chain may put in front of a text. -/
def directivesInUse : List String := [drawBuffersDirective, fragDepthDirective]

example : Rule.withoutPrependsAll (forSampler "cube") =
    [versionDowngrade, cubeSampling "cube", textureCall, fragmentInput, vertexInput, vertexOutput,
      .group "DrawBuffersOutputs" .indexedOutput .fragmentOnly
        ("If out_FragData_<N> is present: enable GL_EXT_draw_buffers, " ++
          "drop its layout declarations, rename to gl_FragData[<N>]")
        [indexedLayoutRemoval, indexedRename],
      singleRename, singleElementRename, singleLayoutRemoval,
      .group "FragDepthOutput" (.ofWord "gl_FragDepth") .fragmentOnly
        "If gl_FragDepth is present: enable GL_EXT_frag_depth and rename it to gl_FragDepthEXT"
        [depthRename]] := rfl

/-! ## The rules overlook the directives -/

/-- What the later rules look for. -/
def soughtLate : List Pattern :=
  [.inputDeclaration, .outputDeclaration, .indexedOutput, .indexedLayout, .ofWord "out_FragColor",
    .singleOutputElement, .singleLayout, .ofWord "gl_FragDepth"]

theorem keeps_of_mem_soughtLate {p : Pattern} (hp : p ∈ soughtLate) :
    ∀ d ∈ directivesInUse, p.Keeps (directiveLine d) := by
  have hplain : ∀ p ∈ soughtLate, p.expr.Plain = true := by decide +kernel
  have hout : ∀ p ∈ soughtLate, ∀ d ∈ directivesInUse,
      Shape.outside p.shapes (Exchange.directive d).put = true := by decide +kernel
  intro d hd
  refine Pattern.keeps_of_outside (hplain p hp) ?_
  rw [← Shape.words_ofWord]
  exact (Shape.outside_words (hout p hp d hd)).mono p.words_subset (le_refl _)

theorem overlooks_late : ∀ r ∈ Rule.nestedAll late, r.Overlooks directivesInUse := by
  have keeps {p : Pattern} (hp : p ∈ soughtLate) := keeps_of_mem_soughtLate hp
  have hdirectives : ∀ d ∈ directivesInUse, d ∈ directivesInUse ∧ d ≠ "" := by decide +kernel
  change ∀ r ∈ [fragmentInput, vertexInput, vertexOutput, indexedOutputs, drawBuffersPrepend,
    indexedLayoutRemoval, indexedRename, singleRename, singleElementRename, singleLayoutRemoval,
    depthOutput, depthPrepend, depthRename], r.Overlooks directivesInUse
  simp only [List.forall_mem_cons]
  refine ⟨keeps ?_, keeps ?_, keeps ?_, keeps ?_, hdirectives _ ?_, keeps ?_, keeps ?_, keeps ?_,
    keeps ?_, keeps ?_, keeps ?_, hdirectives _ ?_, keeps ?_, by simp⟩
  all_goals decide +kernel

/-! ## The rules that run before any directive -/

/-- The rules that run first, for a cube sampler of the given name. -/
def earlyFor (cubeSampler : String) : List Rule :=
  [versionDowngrade, cubeSampling cubeSampler, textureCall]

theorem forSampler_eq (cubeSampler : String) :
    forSampler cubeSampler = earlyFor cubeSampler ++ late := rfl

theorem applicable_cubeSampling (name : String) : (cubeSampling name).Applicable stage := by
  have hread (groups : Nat) : Template.read groups "textureCube".toList =
      .ok ("textureCube".toList.map .char) := rfl
  exact Substitution.applicable_of_read (hread _)

theorem applicable_of_mem_earlyFor : ∀ r ∈ earlyFor cubeSampler, r.Applicable stage := by
  simp only [earlyFor, List.forall_mem_cons]
  exact ⟨replaces_versionDowngrade.applicable, applicable_cubeSampling cubeSampler,
    replaces_textureCall.applicable, by simp⟩

theorem applicable_of_mem_late : ∀ r ∈ late, r.Applicable stage := by
  open Substitution in
  simp only [late, List.forall_mem_cons]
  exact ⟨applicable_of_read (by rfl), applicable_of_read (by rfl), applicable_of_read (by rfl),
    applicable_indexedOutputs, applicable_of_read (by rfl), applicable_of_read (by rfl),
    applicable_of_read (by rfl), applicable_depthOutput, by simp⟩

theorem fault_forSampler (cubeSampler : String) (stage : Stage) (source : Text) :
    (Rule.applyAll (forSampler cubeSampler) stage "" source).fault = none :=
  Rule.fault_applyAll fun r hr ↦
    (List.mem_append.1 hr).elim (applicable_of_mem_earlyFor r) (applicable_of_mem_late r)

/-- The text that the first rules leave. -/
def renamedFor (cubeSampler : String) (stage : Stage) (source : Text) : Text :=
  (Rule.applyAll (earlyFor cubeSampler) stage "" source).text

theorem overlooks_earlyFor (cubeSampler : String) :
    ∀ r ∈ Rule.nestedAll (earlyFor cubeSampler), r.Overlooks [] := by
  change ∀ r ∈ [versionDowngrade, cubeSampling cubeSampler, textureCall], r.Overlooks []
  simp [versionDowngrade, cubeSampling, textureCall, Rule.Overlooks]

/-- The chain leaves the header that the later rules record, and then what all rules leave without
any directives. -/
theorem headed_forSampler (cubeSampler : String) (stage : Stage) (source : Text) :
    Run.Headed directivesInUse [] (Rule.applyAll (forSampler cubeSampler) stage "" source)
      (Rule.applyAll (Rule.withoutPrependsAll (forSampler cubeSampler)) stage "" source) := by
  have hsplit : Rule.withoutPrependsAll (forSampler cubeSampler) =
      earlyFor cubeSampler ++ Rule.withoutPrependsAll late := rfl
  have hearly := overlooks_earlyFor cubeSampler
  have hfirst : Run.Headed directivesInUse [] (Rule.applyAll (earlyFor cubeSampler) stage "" source)
      (Rule.applyAll (earlyFor cubeSampler) stage "" source) :=
    (Rule.headed_applyAll_nil hearly).mono (List.nil_subset _)
  rw [hsplit, forSampler_eq, Rule.applyAll_append, Rule.applyAll_append]
  refine hfirst.andThen ?_
  rw [Rule.directives_applyAll_eq_nil hearly]
  exact Rule.headed_applyAll_nil overlooks_late

/-! ## Which directives are recorded -/

theorem directives_indexedOutputs (t : Text) :
    (indexedOutputs.apply .fragment "" t).directives =
      if Pattern.indexedOutput.occursIn t = true then [(drawBuffersDirective : CodeString)]
      else [] := by
  have hprepend {t : Text} :
      (drawBuffersPrepend.apply .fragment "DrawBuffersOutputs" t).directives =
        [(drawBuffersDirective : CodeString)] := Rule.directives_prepend rfl (by decide)
  rw [indexedOutputs, Rule.directives_group rfl,
    Rule.directives_applyAll_cons applicable_drawBuffersPrepend, hprepend,
    Rule.directives_applyAll_substitute replaces_indexedLayoutRemoval.applicable rfl,
    Rule.directives_applyAll_substitute replaces_indexedRename.applicable rfl,
    Rule.directives_applyAll_nil, List.nil_append]

theorem directives_depthOutput (t : Text) :
    (depthOutput.apply .fragment "" t).directives =
      if Text.includes t "gl_FragDepth".toList = true then [(fragDepthDirective : CodeString)]
      else [] := by
  have hprepend {t : Text} : (depthPrepend.apply .fragment "FragDepthOutput" t).directives =
      [(fragDepthDirective : CodeString)] := Rule.directives_prepend rfl (by decide)
  rw [depthOutput, Rule.directives_group rfl,
    Rule.directives_applyAll_cons applicable_depthPrepend, hprepend,
    Rule.directives_applyAll_substitute replaces_depthRename.applicable rfl,
    Rule.directives_applyAll_nil, List.nil_append, Pattern.occursIn_of_expr_eq_word rfl]

/-- The text that the depth group is offered, from the one that the first rules leave. -/
def singledFrom (t : Text) : Text :=
  singleRename.output .fragment
    (indexedOutputs.output .fragment (fragmentInput.output .fragment t))

theorem directives_late_vertex (t : Text) : (Rule.applyAll late .vertex "" t).directives = [] := by
  rw [late, Rule.directives_applyAll_cons_of_not_admits rfl,
    Rule.directives_applyAll_substitute replaces_vertexInput.applicable rfl,
    Rule.directives_applyAll_substitute replaces_vertexOutput.applicable rfl,
    Rule.directives_applyAll_cons_of_not_admits rfl,
    Rule.directives_applyAll_cons_of_not_admits rfl,
    Rule.directives_applyAll_cons_of_not_admits rfl,
    Rule.directives_applyAll_cons_of_not_admits rfl,
    Rule.directives_applyAll_cons_of_not_admits rfl, Rule.directives_applyAll_nil]

theorem directives_late_fragment (t : Text) :
    (Rule.applyAll late .fragment "" t).directives =
      (if Text.includes (singledFrom t) "gl_FragDepth".toList = true then
          [(fragDepthDirective : CodeString)] else []) ++
        if Pattern.indexedOutput.occursIn (fragmentInput.output .fragment t) = true then
          [(drawBuffersDirective : CodeString)] else [] := by
  obtain ⟨helement, hlayout⟩ := output_of_not_includes (includes_singleRename
    (indexedOutputs.output .fragment (fragmentInput.output .fragment t)))
  rw [late, Rule.directives_applyAll_substitute replaces_fragmentInput.applicable rfl,
    Rule.directives_applyAll_cons_of_not_admits rfl,
    Rule.directives_applyAll_cons_of_not_admits rfl,
    Rule.directives_applyAll_cons applicable_indexedOutputs, directives_indexedOutputs,
    Rule.directives_applyAll_substitute replaces_singleRename.applicable rfl,
    Rule.directives_applyAll_substitute replaces_singleElementRename.applicable rfl, helement,
    Rule.directives_applyAll_substitute replaces_singleLayoutRemoval.applicable rfl, hlayout,
    Rule.directives_applyAll_cons applicable_depthOutput, directives_depthOutput,
    Rule.directives_applyAll_nil, List.nil_append, singledFrom]

theorem directives_forSampler (cubeSampler : String) (stage : Stage) (source : Text) :
    (Rule.applyAll (forSampler cubeSampler) stage "" source).directives =
      (Rule.applyAll late stage "" (renamedFor cubeSampler stage source)).directives := by
  rw [forSampler_eq, Rule.applyAll_append,
    Run.directives_andThen (Rule.fault_applyAll applicable_of_mem_earlyFor),
    Rule.directives_applyAll_eq_nil (overlooks_earlyFor cubeSampler), List.append_nil, renamedFor]

/-! ## Which directives a source gets -/

/-- With the usual cube sampler, a depth output is still there when the depth group is offered the
text. -/
theorem includes_singled_of_includes (h : Text.includes source "gl_FragDepth".toList = true) :
    Text.includes (singled source) "gl_FragDepth".toList = true := by
  have hapart : let early : List Exchange := [.version, .cube, .sampling, .input "varying "]
      let ws : List Shape := [.ofWord "gl_FragDepth".toList]
      Shape.apart ws (early.flatMap Exchange.taken) = true ∧
        Shape.apart ws Pattern.indexedLayout.shapes = true ∧
        Shape.apart ws ([.indexed].flatMap Exchange.taken) = true ∧
        Shape.apart ws ([.single].flatMap Exchange.taken) = true := by decide +kernel
  obtain ⟨htaken, hlayout, hindexed, hsingle⟩ := hapart
  have hword : {"gl_FragDepth".toList} ⊆ Shape.words [.ofWord "gl_FragDepth".toList] :=
    (Shape.words_ofWord _).ge
  rw [← Text.occurs_singleton] at h ⊢
  have hqualified := (exchanged_qualified source).occurs
    ((Shape.apart_words htaken).mono hword (le_refl _)) h
  exact (exchanged_singleRename _).occurs ((Shape.apart_words hsingle).mono hword (le_refl _))
    (occurs_indexedOutputs hword hlayout hindexed hqualified)

theorem directives_standard_fragment (source : Text) :
    (Rule.applyAll (forSampler defaultCubeSampler) .fragment "" source).directives =
      (if Text.includes (singled source) "gl_FragDepth".toList = true then
          [(fragDepthDirective : CodeString)] else []) ++
        if Pattern.anyIndexedOutput.occursIn source = true then
          [(drawBuffersDirective : CodeString)] else [] := by
  have hsingled : singledFrom (renamedFor defaultCubeSampler .fragment source) = singled source :=
    rfl
  have hqualified :
      fragmentInput.output .fragment (renamedFor defaultCubeSampler .fragment source) =
        qualified source := rfl
  rw [directives_forSampler, directives_late_fragment, hsingled, hqualified, occursIn_qualified]

theorem directives_ne :
    (drawBuffersDirective : CodeString) ≠ (fragDepthDirective : CodeString) := by
  rw [Ne, CodeString.ofString_inj]
  decide

theorem drawBuffers_mem_directives_iff (source : Text) : (drawBuffersDirective : CodeString) ∈
    (Rule.applyAll (forSampler defaultCubeSampler) .fragment "" source).directives ↔
      Pattern.anyIndexedOutput.occursIn source = true := by
  rw [directives_standard_fragment, List.mem_append, List.mem_ite_nil_right,
    List.mem_ite_nil_right, List.mem_singleton, List.mem_singleton]
  simp only [directives_ne, and_false, false_or, and_true]

theorem fragDepth_mem_directives_iff (source : Text) : (fragDepthDirective : CodeString) ∈
    (Rule.applyAll (forSampler defaultCubeSampler) .fragment "" source).directives ↔
      Text.includes (singled source) "gl_FragDepth".toList = true := by
  rw [directives_standard_fragment, List.mem_append, List.mem_ite_nil_right,
    List.mem_ite_nil_right, List.mem_singleton, List.mem_singleton]
  simp only [directives_ne.symm, and_false, or_false, and_true]

/-- **The header of directives.** The output of the chain is the header of the recorded directives
and then the output of the chain without them. A vertex shader gets none; a fragment shader gets the
directive for numbered outputs, below the one for the depth output, if the source has any, and the
directive for the depth output if the source has one, and only then if its layout declarations stand
at the starts of lines. -/
theorem run_header (cubeSampler : String) (stage : Stage) (source : Text) : ∃ c b : Conversion,
    Conversion.run (forSampler cubeSampler) false stage source = .ok c ∧
      Conversion.run (Rule.withoutPrependsAll (forSampler cubeSampler)) false stage source = .ok b ∧
      c.output = headerOf c.directives ++ b.output ∧
      (stage = .vertex → c.directives = []) ∧
      (stage = .fragment → c.directives ∈ ([[], [drawBuffersDirective], [fragDepthDirective],
        [fragDepthDirective, drawBuffersDirective]] : List (List CodeString))) ∧
      (stage = .fragment → cubeSampler = defaultCubeSampler →
        ((drawBuffersDirective : CodeString) ∈ c.directives ↔
            Pattern.anyIndexedOutput.occursIn source = true) ∧
          (Text.includes source "gl_FragDepth".toList = true →
            (fragDepthDirective : CodeString) ∈ c.directives) ∧
          (LayoutsStartLines source → (fragDepthDirective : CodeString) ∈ c.directives →
            Text.includes source "gl_FragDepth".toList = true)) := by
  have hheaded := headed_forSampler cubeSampler stage source
  have hfault := fault_forSampler cubeSampler stage source
  have htext := hheaded.text_eq
  rw [List.append_nil] at htext
  have hbare := hheaded.fault_eq ▸ hfault
  refine ⟨_, _, Conversion.run_plain hfault, Conversion.run_plain hbare, htext, ?_, ?_, ?_⟩
  · rintro rfl
    exact (directives_forSampler _ _ _).trans (directives_late_vertex _)
  · rintro rfl
    change (Rule.applyAll (forSampler cubeSampler) .fragment "" source).directives ∈ _
    rw [directives_forSampler, directives_late_fragment]
    split <;> split <;> simp
  · rintro rfl rfl
    refine ⟨drawBuffers_mem_directives_iff source, fun h ↦ ?_, fun hlines h ↦ ?_⟩
    · exact (fragDepth_mem_directives_iff source).2 (includes_singled_of_includes h)
    · rw [← includes_singled hlines (by simp [depthWords])]
      exact (fragDepth_mem_directives_iff source).1 h

end ShaderDowngrade.Chain

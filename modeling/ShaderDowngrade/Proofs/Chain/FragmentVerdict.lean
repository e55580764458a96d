import Mathlib.Data.List.DropRight
import ShaderDowngrade.Proofs.Chain.FragmentText

/-!
# The strict verdict on fragment shaders

If the layout declarations of numbered outputs stand at the starts of lines, and none of them
stands behind the word `in`, then only two things can go wrong at the fragment stage: the cube
sampler stands behind the beginning of its own name, or the directives end up in the wrong order.
The order can be wrong only where the depth directive is not put in front by the chain itself.

Main statement: `Chain.run_strict_fragment`, the strict conversion of every such source.

## Why the declarations must stand so

Deleting a declaration joins what stands before and behind it. At the start of a line this makes no
word, except that an input declaration may have a newline between its keyword and its type; this is
why the word `in` must not stand before.
-/

namespace ShaderDowngrade.Chain

variable {source t : Text}

/-! ## Where layout declarations stand -/

/-- Every layout declaration of a numbered output begins the text or stands behind a newline. -/
def LayoutsStartLines (source : Text) : Prop :=
  ∀ n ≤ source.length,
    (Pattern.indexedLayout.expr.matchAt n true (source.drop n)).isSome = true →
      n = 0 ∨ (source.take n).getLast? = some '\n'

/-- Before no layout declaration of a numbered output, blank characters aside, the text ends in
`in`. -/
def NoLayoutBehindIn (source : Text) : Prop :=
  ∀ n ≤ source.length,
    (Pattern.indexedLayout.expr.matchAt n true (source.drop n)).isSome = true →
      ¬ "in".toList <:+ (source.take n).rdropWhile Blank.isBlank

instance : Decidable (LayoutsStartLines source) := Nat.decidableBallLE _ _

instance : Decidable (NoLayoutBehindIn source) := Nat.decidableBallLE _ _

theorem isSome_matchAt_indexedLayout {u x v : Text} (hx : x ∈ Pattern.indexedLayout.words) :
    (Pattern.indexedLayout.expr.matchAt u.length true ((u ++ x ++ v).drop u.length)).isSome =
      true := by
  obtain ⟨g, hx⟩ := hx
  rw [List.append_assoc, List.drop_left]
  exact Expr.isSome_matchAt (by rfl) _ hx (List.prefix_append x v)

theorem LayoutsStartLines.startsLines (h : LayoutsStartLines source) :
    Text.StartsLines Pattern.indexedLayout.words source := by
  rintro u x v hx rfl
  have := h u.length (by simp) (isSome_matchAt_indexedLayout hx)
  rwa [List.append_assoc, List.take_left, List.length_eq_zero_iff] at this

/-- Shapes of the word `in` with any blank characters behind it. -/
def inBlanks : List Shape :=
  .ofWord "in".toList :: Shape.joined [.ofWord "in".toList] Pattern.blanks.shapes

theorem mem_words_inBlanks {b : Text} (hb : ∀ c ∈ b, Blank.isBlank c = true) :
    "in".toList ++ b ∈ Shape.words inBlanks := by
  by_cases hne : b = []
  · subst hne
    rw [List.append_nil]
    exact Shape.mem_words_of_mem List.mem_cons_self
  · have hfits : b ∈ Shape.words Pattern.blanks.shapes :=
      ⟨_, List.mem_singleton_self _, Shape.fits_many_iff.2
        ⟨hne, fun c hc ↦ Blank.holds_ranges_iff.2 (hb c hc)⟩⟩
    exact Shape.words_subset_words (List.subset_cons_self _ _)
      (Shape.append_mem_words (by simp) hfits)

/-- The layout declarations behind `in` and blank characters. -/
def behindIn : Set Text :=
  {w | ∃ b, (∀ c ∈ b, Blank.isBlank c = true) ∧
    ∃ x ∈ Pattern.indexedLayout.words, w = "in".toList ++ b ++ x}

theorem behindIn_subset :
    behindIn ⊆ Shape.words (Shape.joined inBlanks Pattern.indexedLayout.shapes) := by
  rintro _ ⟨b, hb, x, hx, rfl⟩
  exact Shape.append_mem_words (mem_words_inBlanks hb) (Pattern.indexedLayout.words_subset hx)

theorem rdropWhile_isBlank {u b : Text} (hb : ∀ c ∈ b, Blank.isBlank c = true) :
    (u ++ "in".toList ++ b).rdropWhile Blank.isBlank = u ++ "in".toList := by
  have hn : Blank.isBlank 'n' = false := by decide
  rw [List.rdropWhile, List.reverse_append, List.dropWhile_append_of_pos (by simpa using hb)]
  simp [hn]

theorem NoLayoutBehindIn.not_occurs (h : NoLayoutBehindIn source) :
    ¬ Text.Occurs behindIn source := by
  rintro ⟨_, ⟨b, hb, x, hx, rfl⟩, u, v, rfl⟩
  have hat : u ++ ("in".toList ++ b ++ x) ++ v = u ++ "in".toList ++ b ++ x ++ v := by simp
  rw [hat] at h
  have := h (u ++ "in".toList ++ b).length (by simp) (isSome_matchAt_indexedLayout hx)
  rw [List.append_assoc _ x v, List.take_left, rdropWhile_isBlank hb] at this
  exact this ⟨u, rfl⟩

/-! ## Both conditions hold of the text that the deletion is offered -/

theorem startsLines_qualified (h : LayoutsStartLines source) :
    Text.StartsLines Pattern.indexedLayout.words (qualified source) :=
  (exchanged_qualified_typed source).startsLines Pattern.indexedLayout.words_subset
    (by cbv) (by cbv) h.startsLines

theorem not_occurs_behindIn_qualified (h : NoLayoutBehindIn source) :
    ¬ Text.Occurs behindIn (qualified source) := by
  intro hq
  have hexchanged := exchanged_qualified source
  exact h.not_occurs (hexchanged.occurs_of_occurs behindIn_subset (by cbv) hq)

theorem exists_blank_of_append_mem {k q : Text} (h : k ++ q ∈ Pattern.inputDeclaration.words)
    (hk : k.getLast? = some '\n') :
    ∃ b, (∀ c ∈ b, Blank.isBlank c = true) ∧ k = "in".toList ++ b := by
  obtain ⟨b, ⟨g, hb⟩, type, htype, hkq⟩ := Pattern.mem_words_inputDeclaration.1 h
  have hblank : ∀ c ∈ b, Blank.isBlank c = true := fun c hc ↦ by
    simpa [CharTest.admits, ClassItem.admits] using (Expr.spells_rep_one.1 hb).2.2.1 c hc
  have hnewline : '\n' ∈ k := List.mem_of_getLast? hk
  rcases List.append_eq_append_iff.1 hkq with ⟨z, hz, -⟩ | ⟨z, rfl, hz⟩
  · rcases List.append_eq_append_iff.1 hz with ⟨y, rfl, rfl⟩ | ⟨y, hy, -⟩
    · exact ⟨y, fun c hc ↦ hblank c (List.mem_append_left z hc), rfl⟩
    · have : '\n' ∈ "in".toList := hy ▸ List.mem_append_left y hnewline
      exact absurd this (by decide)
  · cases hlast : z.getLast? with
    | none =>
      obtain rfl := List.getLast?_eq_none_iff.1 hlast
      exact ⟨b, hblank, List.append_nil _⟩
    | some c =>
      -- a newline at the end of the type, which has none
      rw [List.getLast?_append, hlast, Option.some_or, Option.some_inj] at hk
      subst hk
      obtain ⟨s, hs, hfits⟩ := Expr.language_subset _ htype
      have havoids : Pattern.valueType.shapes.all (Shape.avoids '\n') = true := by cbv
      have := Shape.notMem_of_avoids (List.all_eq_true.1 havoids s hs) hfits
      rw [hz] at this
      exact absurd (List.mem_append_left q (List.mem_of_getLast? hlast)) this

theorem not_occurs_fragmentInput (t : Text) :
    ¬ Text.Occurs Pattern.inputDeclaration.words (fragmentInput.output .fragment t) :=
  replaces_fragmentInput.not_occurs (fun _ hm ↦ mem_put_typedInput "varying " hm)
    (by cbv) (by rfl) t

/-- The deletion joins no input declaration. -/
theorem not_occurs_inputDeclaration {d : Text} (hlines : LayoutsStartLines source)
    (hin : NoLayoutBehindIn source)
    (hd : Pattern.indexedLayout.Rewrites (fun _ ↦ []) (qualified source) d) :
    ¬ Text.Occurs Pattern.inputDeclaration.words d := by
  intro h
  rcases hd.occurs_of_deleted (Pattern.nil_notMem_words (by rfl)) h with
    hbefore | ⟨k, q, x, hk, -, hkq, hx, hi⟩
  · exact not_occurs_fragmentInput _ hbefore
  · have hlast := (startsLines_qualified hlines).getLast?_eq_newline hx hk hi
    obtain ⟨b, hb, rfl⟩ := exists_blank_of_append_mem hkq hlast
    exact not_occurs_behindIn_qualified hin ⟨_, ⟨b, hb, x, hx, rfl⟩, hi⟩

/-! ## What the finished text holds -/

theorem includes_fragmentText {w : String} (hlines : LayoutsStartLines source)
    (hw : w ∈ modernWords) (hrenamed : Text.includes (renamed .fragment source) w.toList = false) :
    Text.includes (fragmentText source) w.toList = false := by
  obtain ⟨d, hd, hlater, -⟩ := exists_unlaid_fragmentText source
  have hqualified : Text.includes (qualified source) w.toList = false :=
    (exchanged_input replaces_fragmentInput _).1.includes_modern_eq_false
      (by simp [Exchange.later]) hw hrenamed
  refine hlater.includes_modern_eq_false (by simp [Exchange.later]) hw ?_
  rw [← Bool.not_eq_true, ← Text.occurs_singleton] at hqualified ⊢
  exact fun h ↦ hqualified (occurs_of_unlaid hd (startsLines_qualified hlines)
    (singleton_subset_modernShapes hw) (by decide) (by cbv) h)

theorem occursIn_modernInput_fragmentText (hlines : LayoutsStartLines source)
    (hin : NoLayoutBehindIn source) :
    Finished.modernInput.occursIn (fragmentText source) = false := by
  obtain ⟨d, hd, hlater, -⟩ := exists_unlaid_fragmentText source
  rw [Pattern.occursIn_eq_false_iff (by rfl), Pattern.words_modernInput]
  exact fun h ↦ not_occurs_inputDeclaration hlines hin hd
    (hlater.occurs_of_occurs Pattern.inputDeclaration.words_subset (by cbv) h)

theorem checkOutputs_fragmentText (source : Text) :
    Finished.checkOutputs .fragment (fragmentText source) = [] := by
  have hindexed : Pattern.anyIndexedOutput.occursIn (fragmentText source) = false := by
    have hgone := occursIn_indexedOutputs (qualified source)
    rw [Pattern.occursIn_eq_false_iff (by rfl)] at hgone ⊢
    exact fun h ↦ hgone (((exchanged_singleRename _).trans
      (exchanged_depthOutput _)).occurs_of_occurs Pattern.anyIndexedOutput.words_subset
        (by cbv) h)
  have hsingle : Text.includes (fragmentText source) "out_FragColor".toList = false :=
    (exchanged_depthOutput _).includes_eq_false (by cbv) (includes_singleRename _)
  rw [Finished.checkOutputs, hindexed, hsingle, fragmentText, occursIn_depthOutput]
  rfl

/-! ## The order of the directives -/

/-- The words that the order of the directives hangs on. -/
def depthWords : List Shape :=
  [.ofWord "gl_FragDepth".toList, .ofWord fragDepthDirective.toList]

theorem occurs_singled_iff (hlines : LayoutsStartLines source) {W : Set Text}
    (hW : W ⊆ Shape.words depthWords) :
    Text.Occurs W (singled source) ↔ Text.Occurs W source := by
  have hapart : let early : List Exchange := [.version, .cube, .sampling, .input "varying "]
      Shape.apart depthWords (early.flatMap Exchange.taken) = true ∧
        Shape.apart depthWords (early.flatMap Exchange.put) = true ∧
        Shape.apart depthWords Pattern.indexedLayout.shapes = true ∧
        Shape.apart depthWords ([.indexed].flatMap Exchange.taken) = true ∧
        Shape.apart depthWords
          ([.directive drawBuffersDirective, .indexed].flatMap Exchange.put) = true ∧
        Shape.apart depthWords ([.single].flatMap Exchange.taken) = true ∧
        Shape.apart depthWords ([.single].flatMap Exchange.put) = true := by decide +kernel
  obtain ⟨htaken, hput, hlayout, hindexed, hindexed', hsingle, hsingle'⟩ := hapart
  rw [singled, (exchanged_singleRename _).occurs_iff hW hsingle hsingle',
    occurs_indexedOutputs_iff hW (by decide) (by decide +kernel) hlayout hindexed hindexed'
      (startsLines_qualified hlines)]
  exact (exchanged_qualified source).occurs_iff hW htaken hput

theorem includes_singled {w : String} (hlines : LayoutsStartLines source)
    (hw : Shape.ofWord w.toList ∈ depthWords) :
    Text.includes (singled source) w.toList = Text.includes source w.toList := by
  rw [Bool.eq_iff_iff, ← Text.occurs_singleton, ← Text.occurs_singleton]
  exact occurs_singled_iff hlines (Set.singleton_subset_iff.2 (Shape.mem_words_of_mem hw))

theorem occursIn_qualified (source : Text) : Pattern.indexedOutput.occursIn (qualified source) =
    Pattern.anyIndexedOutput.occursIn source := by
  rw [Pattern.occursIn_indexedOutput]
  exact Pattern.occursIn_eq_of_occurs_iff (by rfl) (by rfl) ((exchanged_qualified source).occurs_iff
    Pattern.anyIndexedOutput.words_subset (by cbv) (by cbv))

theorem prefix_singled (h : Pattern.anyIndexedOutput.occursIn source = true) : ∃ d,
    singled source = prependDirective drawBuffersDirective d := by
  rw [← occursIn_qualified] at h
  obtain ⟨d, hd⟩ := prefix_indexedOutputs h
  have hout : Shape.outside (Pattern.ofWord "out_FragColor").shapes
      (Exchange.directive drawBuffersDirective).put = true := by cbv
  rw [singled, hd]
  exact (exists_prependDirective replaces_singleRename hout d).imp fun _ h ↦ h.1

theorem prefix_prependDirective (d : String) (t : Text) : d.toList <+: prependDirective d t :=
  ⟨directiveSeparator ++ t, (List.append_assoc _ _ _).symm⟩

/-- When the draw buffers directive comes first in the finished text, in terms of the source. -/
theorem startsBefore_fragmentText (hlines : LayoutsStartLines source) :
    Text.startsBefore drawBuffersDirective.toList fragDepthDirective.toList
        (fragmentText source) = true ↔
      Text.includes source "gl_FragDepth".toList = false ∧
        (Pattern.anyIndexedOutput.occursIn source = true ∧
            Text.includes source fragDepthDirective.toList = true ∨
          Pattern.anyIndexedOutput.occursIn source = false ∧
            Text.startsBefore drawBuffersDirective.toList fragDepthDirective.toList source =
              true) := by
  have hdepth : Text.includes (singled source) "gl_FragDepth".toList =
      Text.includes source "gl_FragDepth".toList := includes_singled hlines (by simp [depthWords])
  cases h : Text.includes source "gl_FragDepth".toList with
  | true =>
    -- the depth group runs last, so its directive comes first
    obtain ⟨d, hd⟩ := prefix_depthOutput (hdepth.trans h)
    rw [fragmentText, hd,
      Text.startsBefore_of_prefix_second (prefix_prependDirective fragDepthDirective d)]
    simp
  | false =>
    have htext : fragmentText source = singled source := by
      rw [fragmentText, depthOutput_output, hdepth, h, if_neg Bool.false_ne_true]
    rw [htext]
    cases hindexed : Pattern.anyIndexedOutput.occursIn source with
    | true =>
      -- the directive for the outputs comes first; the other one can only be in the source already
      obtain ⟨d, hd⟩ := prefix_singled hindexed
      have hfirst : drawBuffersDirective.toList <+: singled source :=
        hd ▸ prefix_prependDirective drawBuffersDirective d
      have hsecond : ¬ fragDepthDirective.toList <+: singled source := fun hsecond ↦ by
        have := List.prefix_of_prefix_length_le hsecond hfirst (by decide)
        exact absurd this (by decide)
      rw [Text.startsBefore_of_prefix_first hfirst hsecond,
        includes_singled hlines (by simp [depthWords])]
      simp
    | false =>
      -- no group runs, so both directives are where the source has them
      have hsame : singled source = singleRename.output .fragment (qualified source) := by
        rw [singled, indexedOutputs_output, occursIn_qualified, hindexed,
          if_neg Bool.false_ne_true]
      have hexchanged := (exchanged_qualified source).trans (exchanged_singleRename _)
      rw [hsame, hexchanged.startsBefore_directives_eq (by simp [Exchange.undirected])]
      simp

/-! ## The verdict -/

theorem violations_fragmentInput (t : Text) :
    fragmentInput.violations .fragment (fragmentInput.output .fragment t) = [] :=
  (Rule.violations_eq_nil_iff rfl rfl).2
    ((Pattern.occursIn_eq_false_iff (by rfl) _).2 (not_occurs_fragmentInput t))

theorem violations_indexedOutputs (t : Text) :
    indexedOutputs.violations .fragment (indexedOutputs.output .fragment t) = [] :=
  violations_indexedOutputs_eq_nil_iff.2 (occursIn_indexedOutputs t)

theorem violations_singleRename (t : Text) :
    singleRename.violations .fragment (singleRename.output .fragment t) = [] :=
  (Rule.violations_eq_nil_iff_of_word rfl rfl rfl).2 (includes_singleRename t)

theorem violations_depthOutput (t : Text) :
    depthOutput.violations .fragment (depthOutput.output .fragment t) = [] :=
  violations_depthOutput_eq_nil_iff.2 (occursIn_depthOutput t)

/-- The strict run over the later rules at the fragment stage gets to its end. -/
theorem ending_late_fragment (source : Text) :
    StrictRun.ending late .fragment (renamed .fragment source) =
      StrictRun.verdict StrictRun.finalStep (Finished.check .fragment (fragmentText source))
        (fragmentText source) := by
  obtain ⟨helement, hlayout⟩ := output_of_not_includes (includes_singleRename
    (indexedOutputs.output .fragment (qualified source)))
  rw [late, StrictRun.ending_cons_of_smooth replaces_fragmentInput.applicable
      (violations_fragmentInput _), ← qualified, StrictRun.ending_cons_of_not_admits rfl,
    StrictRun.ending_cons_of_not_admits rfl,
    StrictRun.ending_cons_of_smooth applicable_indexedOutputs (violations_indexedOutputs _),
    StrictRun.ending_cons_of_smooth replaces_singleRename.applicable (violations_singleRename _),
    StrictRun.ending_cons_of_smooth replaces_singleElementRename.applicable rfl, helement,
    StrictRun.ending_cons_of_smooth replaces_singleLayoutRemoval.applicable rfl, hlayout,
    StrictRun.ending_cons_of_smooth applicable_depthOutput (violations_depthOutput _),
    StrictRun.ending_nil, fragmentText, singled]

/-- What is wrong with the finished text of a fragment shader. -/
theorem check_fragmentText (hlines : LayoutsStartLines source) (hin : NoLayoutBehindIn source)
    (hcube : Text.includes source "czm_czm_textureCube".toList = false) :
    Finished.check .fragment (fragmentText source) =
      if Text.includes source "gl_FragDepth".toList = false ∧
        (Pattern.anyIndexedOutput.occursIn source = true ∧
            Text.includes source fragDepthDirective.toList = true ∨
          Pattern.anyIndexedOutput.occursIn source = false ∧
            Text.startsBefore drawBuffersDirective.toList fragDepthDirective.toList source = true)
      then [.directiveOrder] else [] := by
  rw [Finished.check_eq
    (includes_fragmentText hlines (by simp [modernWords])
      (includes_renamed_version .fragment source))
    (includes_fragmentText hlines (by simp [modernWords, defaultCubeSampler])
      (includes_renamed_cube hcube .fragment))
    (includes_fragmentText hlines (by simp [modernWords])
      (includes_renamed_sampling .fragment source))
    (occursIn_modernInput_fragmentText hlines hin), checkOutputs_fragmentText, List.nil_append,
    Finished.checkOrder_eq, Finished.flag]
  simp only [startsBefore_fragmentText hlines]

/-- **The strict verdict on fragment shaders.** Whether a fragment shader whose layout declarations
stand in places of their own is refused, at which step and for what reason can be told from the
source. One that is not refused is converted as it is without checks. -/
theorem run_strict_fragment (source : Text) (hlines : LayoutsStartLines source)
    (hin : NoLayoutBehindIn source) :
    Conversion.run standard true .fragment source =
      if Text.includes source "czm_czm_textureCube".toList = true then
        .error (.violated "CubeSamplingRename"
          [.patternPresent "CubeSamplingRename" "czm_textureCube"])
      else if Text.includes source "gl_FragDepth".toList = false ∧
        (Pattern.anyIndexedOutput.occursIn source = true ∧
            Text.includes source fragDepthDirective.toList = true ∨
          Pattern.anyIndexedOutput.occursIn source = false ∧
            Text.startsBefore drawBuffersDirective.toList fragDepthDirective.toList source = true)
      then .error (.violated "validate_output" [.directiveOrder])
      else .ok
        { source, output := downgrade .fragment source, stage := .fragment
          ledger := Ledger.recordAll { stage := some .fragment }
            (Rule.applyAll standard .fragment "" source).entries
          strict := true, ruleNames := standard.map Rule.name } := by
  rw [Conversion.run_strict, ending_standard, ending_late_fragment]
  by_cases hcube : Text.includes source "czm_czm_textureCube".toList = true
  · rw [if_pos hcube, if_pos hcube]
    rfl
  · rw [if_neg hcube, if_neg hcube, check_fragmentText hlines hin (by simpa using hcube)]
    split
    · rfl
    · rfl

/-- A shader that brings its own depth directive, and has a numbered output, is refused: the
directive of the outputs goes in front of it. -/
theorem run_strict_fragment_own_directive :
    let source := "#extension GL_EXT_frag_depth : enable\n".toList ++
      "layout (location = 0) vec4 out_FragData_0;\n".toList ++
      "void main() \x7b out_FragData_0 = vec4(1.0); \x7d".toList
    LayoutsStartLines source ∧ NoLayoutBehindIn source ∧
      Conversion.run standard true .fragment source =
        .error (.violated "validate_output" [.directiveOrder]) := by
  refine ⟨by decide +kernel, by decide +kernel, ?_⟩
  rw [run_strict_fragment _ (by decide +kernel) (by decide +kernel), if_neg (by decide +kernel),
    if_pos (by decide +kernel)]

end ShaderDowngrade.Chain

import ShaderDowngrade.Proofs.Chain.Numbers
import ShaderDowngrade.Proofs.Pattern.Interrupted

/-!
# Declarations that are left

The layout declarations of numbered outputs are deleted in one pass, before the outputs are renamed.
A declaration that other declarations interrupt is joined when they are deleted, and the pass does
not look at it again. The renaming then gives it the new name. The deletion forbids its own pattern,
but the group is checked only when all its rules have run, and the pattern has the old name: no
check, strict mode or not, finds the declaration that is left.

Main statement: `Chain.run_renamedLayout_iff`, a run at the fragment stage leaves such a declaration
exactly if the source has one already or has one, with the old name or the new, that is interrupted.

## What the renaming makes

A declaration with the new name was there before the renaming, or it reaches from its beginning into
what a renamed output became. Then the semicolon behind that was there before as well, and the three
together were a declaration with the old name.
-/

namespace ShaderDowngrade

namespace Pattern

/-- The layout declaration of a numbered output, renamed. -/
def renamedLayout : Pattern :=
  ⟨"layout \\(location = [0-9]+\\) vec4 gl_FragData\\[[0-9]+\\];",
    .seqAll (chars "layout (location = " ++ [digits] ++ chars ") vec4 gl_FragData[" ++ [digits] ++
      chars "];")⟩

set_option maxRecDepth 1000 in
example : read renamedLayout.spelling = .ok renamedLayout := by cbv

theorem mem_words_renamedLayout_iff_header {l : Text} : l ∈ renamedLayout.words ↔
    ∃ d ∈ digits.language, ∃ d' ∈ digits.language,
      l = layoutHeader d ++ ("gl_FragData[".toList ++ d' ++ "]".toList) ++ [';'] := by
  have hword : ") vec4 gl_FragData[".toList = ") vec4 ".toList ++ "gl_FragData[".toList := by
    decide
  have hclose : "];".toList = "]".toList ++ [';'] := by decide
  rw [words, renamedLayout, chars, chars, chars, mem_language_twoNumbers, hword, hclose]
  unfold layoutHeader
  simp only [List.append_assoc]

theorem nil_notMem_words_renamedLayout : [] ∉ renamedLayout.words :=
  nil_notMem_words (by rfl)

end Pattern

namespace Chain

open Pattern (indexedOutput indexedLayout renamedLayout layoutHeader layoutHeaders)

variable {t : Text}

/-! ## Shapes -/

/-- What the steps exchange, but for the outputs with a number and the directives. -/
def plainExchanges : List Exchange :=
  [.version, .cube, .sampling, .input "varying ", .single, .depth]

theorem apart_renamedLayout :
    Shape.apart renamedLayout.shapes ((.indexed :: plainExchanges).flatMap Exchange.taken) = true ∧
      Shape.apart renamedLayout.shapes ((plainExchanges ++
        [drawBuffersDirective, fragDepthDirective].map Exchange.directive).flatMap
          Exchange.put) = true ∧
      Shape.apart renamedLayout.shapes indexedLayout.shapes = true := by
  decide +kernel

/-- Shapes of what follows in a renamed declaration on the first letter of the element. -/
def elementRests : List Shape :=
  Shape.joined (Shape.joined [.ofWord "l_FragData[".toList] Pattern.digits.shapes)
    [.ofWord "];".toList]

/-- An element begins in no declaration but where its own name does, no declaration begins in an
element, and none of two elements goes on behind the other. -/
theorem shapes_element :
    Shape.outside Exchange.indexed.put layoutHeaders = true ∧
      Shape.outside Exchange.indexed.put elementRests = true ∧
      Shape.outside renamedLayout.shapes Exchange.indexed.put = true ∧
      Exchange.indexed.put.all (Shape.closedBy ']') = true := by
  decide +kernel

/-- Shapes of the declarations with the old name and with the new. -/
def declarations : List Shape := indexedLayout.shapes ++ renamedLayout.shapes

theorem declarations_subset :
    indexedLayout.words ∪ renamedLayout.words ⊆ Shape.words declarations := by
  rintro w (hw | hw)
  · exact Shape.words_subset_words (List.subset_append_left _ _) (indexedLayout.words_subset hw)
  · exact Shape.words_subset_words (List.subset_append_right _ _) (renamedLayout.words_subset hw)

/-- The other exchanges neither make nor break an interrupted declaration, and no declaration with
the old name begins in a declaration, interrupted or not. One with the old name ends with its only
semicolon, and none has a newline in it. -/
theorem shapes_declarations :
    Shape.interruptionsApart declarations indexedLayout.shapes
        (plainExchanges.flatMap Exchange.taken) = true ∧
      Shape.interruptionsApart declarations indexedLayout.shapes
        (plainExchanges.flatMap Exchange.put) = true ∧
      Shape.separateFromStarts (indexedLayout.shapes.flatMap Shape.tails) declarations
        indexedLayout.shapes = true ∧
      Shape.free (declarations.map List.tail) indexedLayout.shapes = true ∧
      indexedLayout.shapes.all (Shape.closedBy ';') = true ∧
      declarations.all (fun s ↦ s.head?.all (!·.many)) = true ∧
      declarations.all (Shape.avoids '\n') = true := by
  decide +kernel

/-! ## Exchanges -/

theorem occurs_renamedLayout_iff_of_exchanged {xs : List Exchange} {u : Text}
    (h : Exchanged xs t u) (hxs : xs ⊆ plainExchanges) :
    Text.Occurs renamedLayout.words u ↔ Text.Occurs renamedLayout.words t := by
  obtain ⟨htaken, hput, -⟩ := apart_renamedLayout
  have hsubset := renamedLayout.words_subset
  constructor
  · exact (h.mono (List.Subset.trans hxs (List.subset_append_left _ _))).occurs_of_occurs hsubset
      hput
  · exact (h.mono (List.Subset.trans hxs (List.subset_cons_self _ _))).occurs
      ((Shape.apart_words htaken).mono hsubset (le_refl _))

theorem occurs_renamedLayout_prependDirective_iff {d : String}
    (hd : d ∈ [drawBuffersDirective, fragDepthDirective]) :
    Text.Occurs renamedLayout.words (prependDirective d t) ↔
      Text.Occurs renamedLayout.words t := by
  obtain ⟨-, hput, -⟩ := apart_renamedLayout
  refine ⟨?_, occurs_prependDirective d⟩
  refine ((exchanged_prependDirective d t).mono ?_).occurs_of_occurs renamedLayout.words_subset hput
  exact List.cons_subset.2
    ⟨List.mem_append_right _ (List.mem_map_of_mem hd), List.nil_subset _⟩

/-! ## Renaming a declaration -/

theorem replaceWith_mem_words_renamedLayout {l : Text} (h : l ∈ indexedLayout.words) :
    indexedOutput.replaceWith element l ∈ renamedLayout.words := by
  obtain ⟨d, hd, d', hd', rfl⟩ := Pattern.mem_words_indexedLayout_iff_header.1 h
  have hlast : indexedOutput.replaceWith element [';'] = [';'] := by cbv
  refine Pattern.mem_words_renamedLayout_iff_header.2 ⟨d, hd, d', hd', ?_⟩
  rw [(Pattern.leads_layoutHeader hd hd').replaceWith_eq element, hlast]
  rfl

theorem occurs_renamed_of_indexedLayout (h : Text.Occurs indexedLayout.words t) :
    Text.Occurs renamedLayout.words (indexedOutput.replaceWith element t) := by
  obtain ⟨l, hl, a, b, rfl⟩ := h
  have hne := Pattern.nil_notMem_words_indexedOutput
  -- the scan can be cut behind the letter with which the declaration begins, and behind its end
  have hfirst : Pattern.CutsAt indexedOutput 'l' := Pattern.cutsAt_of_stops (by rfl) (by rfl) hne
  have hlast := (Pattern.spans_of_mem_indexedLayout hl 0).1
  have hkept (s : Text) (hs : s.getLast? = some 'l') :
      (indexedOutput.replaceWith element s).getLast? = some 'l' := by
    refine (Pattern.rewrites_replaceWith (by rfl) hne element s).getLast?_eq_some hne
      (fun m hm hmlast ↦ ?_) hs
    -- the last character of an output is a digit
    obtain ⟨hnumber, htext⟩ := Pattern.spells_indexedOutput hm
    obtain ⟨hdigit, hdigits⟩ := Expr.mem_language_digits.1 hnumber
    rw [htext, List.getLast?_append_of_ne_nil _ hdigit] at hmlast
    exact absurd (hdigits _ (List.mem_of_getLast? hmlast)) (by decide)
  have hrenamed := replaceWith_mem_words_renamedLayout hl
  obtain ⟨w, rfl⟩ : ∃ w, l = 'l' :: w := by
    obtain ⟨d, -, d', -, rfl⟩ := Pattern.mem_words_indexedLayout_iff_header.1 hl
    exact ⟨_, rfl⟩
  exact ⟨_, hrenamed,
    hfirst.replaceWith_infix Pattern.cutsAt_indexedOutput.2 hkept (by cbv) hlast a b⟩

theorem elementName_eq : "gl_FragData[".toList = 'g' :: "l_FragData[".toList := by decide

/-- A renamed declaration that reaches into an element does so with its own. -/
theorem eq_layoutHeader_of_reaches {k q x : Text} (h : k ++ q ∈ renamedLayout.words) (hq : q ≠ [])
    (hx : x ∈ Shape.words Exchange.indexed.put) (hcomp : Text.Comparable q x) :
    ∃ d ∈ Pattern.digits.language, ∃ d' ∈ Pattern.digits.language,
      k = layoutHeader d ∧ q = "gl_FragData[".toList ++ d' ++ "]".toList ++ [';'] := by
  obtain ⟨d, hd, d', hd', hw⟩ := Pattern.mem_words_renamedLayout_iff_header.1 h
  rw [List.append_assoc] at hw
  obtain ⟨hheader, hrest, -⟩ := shapes_element
  rcases List.append_eq_append_iff.1 hw with ⟨z, hz, hzq⟩ | ⟨z, hz, hzq⟩
  · -- it would begin in front of the element
    by_cases hne : z = []
    · subst hne
      exact ⟨d, hd, d', hd', by simpa using hz.symm, by simpa using hzq⟩
    · exact absurd (hcomp.symm.of_isPrefix ⟨_, hzq.symm⟩).symm
        (Shape.outside_words hheader hx (Pattern.layoutHeader_mem_words hd) hz hne)
  · -- it would begin behind the first letter of the element
    cases z with
    | nil => exact ⟨d, hd, d', hd', by simpa using hz, by simpa using hzq.symm⟩
    | cons c z =>
      have htail : "l_FragData[".toList ++ d' ++ "];".toList ∈ Shape.words elementRests :=
        Shape.append_mem_words (Shape.append_mem_words (by simp) (Expr.language_subset _ hd'))
          (by simp)
      have hclose : "];".toList = "]".toList ++ [';'] := by decide
      rw [elementName_eq, List.cons_append, List.cons_append, List.cons_append] at hzq
      refine absurd hcomp (Shape.outside_words hrest hx htail (p := z) ?_ hq)
      rw [hclose, ← List.append_assoc]
      exact (List.cons.inj hzq).2

theorem semicolon_prefix_of_rewrites {s u : Text} (h : indexedOutput.Rewrites element s u)
    (hu : [';'] <+: u) : [';'] <+: s := by
  obtain ⟨v, hv⟩ := hu
  cases h with
  | done => cases hv
  | keep _ _ =>
    obtain ⟨rfl, -⟩ := List.cons.inj hv
    exact List.cons_prefix_cons.2 ⟨rfl, List.nil_prefix⟩
  | found _ _ =>
    unfold element at hv
    rw [elementName_eq] at hv
    exact absurd (List.cons.inj hv).1 (by decide)

theorem occurs_of_renamed (h : Text.Occurs renamedLayout.words
      (indexedOutput.replaceWith element t)) :
    Text.Occurs (indexedLayout.words ∪ renamedLayout.words) t := by
  obtain ⟨-, -, houtside, hclosed⟩ := shapes_element
  have hout : Text.Outside renamedLayout.words (Shape.words Exchange.indexed.put) :=
    (Shape.outside_words houtside).mono renamedLayout.words_subset (le_refl _)
  obtain ⟨w, hw, c, b, b', hb, -, hrewrites, hpre⟩ :=
    (Pattern.rewrites_replaceWith (by rfl) Pattern.nil_notMem_words_indexedOutput element
      t).exists_kept_beginning (fun _ ↦ mem_put_indexed) hout
        Pattern.nil_notMem_words_renamedLayout h
  rcases hrewrites.prefix_or_reaches (fun _ ↦ mem_put_indexed) (Text.reachesBy_univ _ _) hw
    (List.cons_ne_nil c []) hpre with hpre | ⟨k, -, q, m, r, r', rfl, hq, hm, hs, hr, hreach⟩
  · exact ⟨w, .inr hw, hpre.isInfix.trans hb.isInfix⟩
  · have hx : element m ∈ Shape.words Exchange.indexed.put := mem_put_indexed hm
    have hcomp := List.prefix_or_prefix_of_prefix hreach (List.prefix_append (element m) r')
    obtain ⟨d, hd, d', hd', rfl, rfl⟩ := eq_layoutHeader_of_reaches hw hq hx hcomp
    -- the element is the one that the declaration names, so a semicolon comes behind it
    have helement : "gl_FragData[".toList ++ d' ++ "]".toList ∈ Shape.words Exchange.indexed.put :=
      Shape.append_mem_words (Shape.append_mem_words (by simp) (Expr.language_subset _ hd'))
        (by simp)
    have heq := Shape.eq_of_comparable hclosed helement hx
      (List.prefix_or_prefix_of_prefix ((List.prefix_append _ _).trans hreach)
        (List.prefix_append (element m) r'))
    rw [heq, List.prefix_append_right_inj] at hreach
    obtain ⟨u, rfl⟩ := semicolon_prefix_of_rewrites hr hreach
    obtain ⟨hnumber, htext⟩ := Pattern.spells_indexedOutput hm
    refine ⟨_, .inl (Pattern.mem_words_indexedLayout_iff_header.2 ⟨d, hd, m.group 1, hnumber, rfl⟩),
      List.IsInfix.trans ?_ hb.isInfix⟩
    exact ⟨[], u, by simpa [htext] using hs.symm⟩

/-- **What the renaming makes** of the declarations. -/
theorem occurs_replaceWith_element_iff (t : Text) :
    Text.Occurs renamedLayout.words (indexedOutput.replaceWith element t) ↔
      Text.Occurs (indexedLayout.words ∪ renamedLayout.words) t := by
  refine ⟨occurs_of_renamed, ?_⟩
  rintro ⟨w, hw | hw, hin⟩
  · exact occurs_renamed_of_indexedLayout ⟨w, hw, hin⟩
  · have hexchanged : Exchanged [.indexed] t (indexedRename.output .fragment t) :=
      exchanged_indexedRename t
    rw [replaces_indexedRename.output_eq] at hexchanged
    exact (hexchanged.mono (List.cons_subset_cons _ (List.nil_subset _))).occurs
      ((Shape.apart_words apart_renamedLayout.1).mono renamedLayout.words_subset (le_refl _))
      ⟨w, hw, hin⟩

/-! ## The steps of the chain -/

theorem occurs_indexedOutputs_renamedLayout (t : Text) :
    Text.Occurs renamedLayout.words (indexedOutputs.output .fragment t) ↔
      Text.Occurs (indexedLayout.words ∪ renamedLayout.words) (unlaid t) := by
  by_cases h : indexedOutput.occursIn t = true
  · have houtput : indexedOutputs.output .fragment t = prependDirective drawBuffersDirective
        (indexedOutput.replaceWith element (unlaid t)) := indexedOutputs_output_eq h
    rw [houtput, occurs_renamedLayout_prependDirective_iff (by simp),
      occurs_replaceWith_element_iff]
  · -- without a numbered output there is no declaration with the old name
    have hnone := not_occurs_indexedLayout (Bool.eq_false_iff.2 h)
    have hunlaid : unlaid t = t :=
      (Pattern.rewrites_replaceWith (by rfl) (Pattern.nil_notMem_words (by rfl)) _
        t).eq_of_not_occurs hnone
    rw [indexedOutputs_output, if_neg h, hunlaid]
    refine ⟨fun ⟨w, hw, hin⟩ ↦ ⟨w, .inr hw, hin⟩, ?_⟩
    rintro ⟨w, hw | hw, hin⟩
    · exact absurd ⟨w, hw, hin⟩ hnone
    · exact ⟨w, hw, hin⟩

/-- The rules for the single output and the depth output leave the declarations alone. -/
theorem occurs_later_renamedLayout (t : Text) :
    Text.Occurs renamedLayout.words
        (depthOutput.output .fragment (singleRename.output .fragment t)) ↔
      Text.Occurs renamedLayout.words t := by
  have hsingle := occurs_renamedLayout_iff_of_exchanged (exchanged_singleRename t)
    (by simp [plainExchanges])
  rw [← hsingle, depthOutput_output]
  split
  · rw [occurs_renamedLayout_iff_of_exchanged (exchanged_depthRename _) (by simp [plainExchanges]),
      occurs_renamedLayout_prependDirective_iff (by simp)]
  · rfl

/-- The deletion leaves the declarations that were interrupted, and those with the new name. -/
theorem occurs_unlaid_declarations_iff (t : Text) :
    Text.Occurs (indexedLayout.words ∪ renamedLayout.words) (unlaid t) ↔
      Text.Occurs renamedLayout.words t ∨ Text.Occurs (Text.interruptions indexedLayout.words
        (indexedLayout.words ∪ renamedLayout.words)) t := by
  have hne : [] ∉ indexedLayout.words := Pattern.nil_notMem_words (by rfl)
  obtain ⟨-, -, houtside, hfree, hclosed, hsingle, -⟩ := shapes_declarations
  refine (Pattern.rewrites_replaceWith (by rfl) hne _ t).occurs_iff_interruptions ?_ ?_ ?_ ?_ ?_
  · exact fun h ↦ h.elim hne Pattern.nil_notMem_words_renamedLayout
  · exact (Shape.apart_words apart_renamedLayout.2.2).mono renamedLayout.words_subset
      indexedLayout.words_subset
  · exact fun w hw ↦ Shape.free_of_mem_words indexedLayout.words_subset hfree
      (Shape.tail_mem_words hsingle (declarations_subset hw))
  · exact fun x hx y hy ↦ Shape.eq_of_comparable hclosed (indexedLayout.words_subset hx)
      (indexedLayout.words_subset hy)
  · exact (Shape.outside_interruptions indexedLayout.words_subset declarations_subset
      (Shape.separate_joined_starts houtside)).mono (le_refl _) indexedLayout.words_subset

/-! ## What is left -/

theorem not_occurs_interruptions {X W : Set Text} {ws : List Shape} (hlines : Text.StartsLines X t)
    (hW : W ⊆ Shape.words ws) (hnewline : ws.all (Shape.avoids '\n') = true) :
    ¬ Text.Occurs (Text.interruptions X W) t := by
  rintro ⟨v, ⟨w, hw, hv⟩, hin⟩
  obtain ⟨k, q, hk, -, rfl, x, hx, hpre⟩ := Text.exists_prefix_of_mem_interrupted hv
  obtain ⟨s, hs, hfits⟩ := hW hw
  have hlast := hlines.getLast?_eq_newline hx hk (hpre.isInfix.trans hin)
  exact absurd (List.mem_append_left q (List.mem_of_getLast? hlast))
    (Shape.notMem_of_avoids (List.all_eq_true.1 hnewline s hs) hfits)

/-- The declarations that are left, in terms of the source. -/
theorem occursIn_renamedLayout_iff (source : Text) :
    renamedLayout.occursIn (downgrade .fragment source) = true ↔
      renamedLayout.occursIn source = true ∨ Text.Occurs (Text.interruptions indexedLayout.words
        (indexedLayout.words ∪ renamedLayout.words)) source := by
  have hplain : renamedLayout.expr.Plain = true := by rfl
  obtain ⟨htaken, hput, -⟩ := shapes_declarations
  -- the rules before the deletion neither make nor break a declaration, interrupted or not
  have hearly : [.version, .cube, .sampling, .input "varying "] ⊆ plainExchanges := by
    simp [plainExchanges]
  have hqualified := occurs_renamedLayout_iff_of_exchanged (exchanged_qualified source) hearly
  have hinterrupted := Text.Swaps.occurs_iff ((exchanged_qualified source).mono hearly)
    (Shape.apart_interruptions indexedLayout.words_subset declarations_subset htaken)
    (Shape.apart_interruptions indexedLayout.words_subset declarations_subset hput)
  rw [downgrade_fragment, fragmentText, singled, Pattern.occursIn_iff_occurs hplain,
    occurs_later_renamedLayout, occurs_indexedOutputs_renamedLayout,
    occurs_unlaid_declarations_iff, hqualified, hinterrupted, Pattern.occursIn_iff_occurs hplain]

theorem occursIn_renamedLayout_eq_false
    (h : Text.includes t "gl_FragData".toList = false) : renamedLayout.occursIn t = false := by
  rw [Pattern.occursIn_eq_false_iff (by rfl)]
  rintro ⟨w, hw, hin⟩
  obtain ⟨d, -, d', -, rfl⟩ := Pattern.mem_words_renamedLayout_iff_header.1 hw
  have hword : "gl_FragData[".toList = "gl_FragData".toList ++ ['['] := by decide
  refine Bool.false_ne_true (h.symm.trans (Text.includes_iff.2 (List.IsInfix.trans ?_ hin)))
  exact ⟨layoutHeader d, ['['] ++ d' ++ "]".toList ++ [';'], by simp [hword]⟩

/-- **A conversion leaves a declaration** of a renamed output exactly if the source has one already,
or has a declaration, with the old name or the new, that declarations with the old name interrupt. A
plain conversion is never refused, and a strict one that is not refused leaves the same. In a source
without elements there is none already, and declarations at the starts of lines interrupt none. -/
theorem run_renamedLayout_iff (source : Text) :
    let interrupted := Text.Occurs (Text.interruptions indexedLayout.words
      (indexedLayout.words ∪ renamedLayout.words)) source
    (∃ c, Conversion.run standard false .fragment source = .ok c) ∧
      (∀ strict c, Conversion.run standard strict .fragment source = .ok c →
        (renamedLayout.occursIn c.output = true ↔
          renamedLayout.occursIn source = true ∨ interrupted)) ∧
      (Text.includes source "gl_FragData".toList = false →
        renamedLayout.occursIn source = false) ∧
      (LayoutsStartLines source → ¬ interrupted) := by
  refine ⟨⟨_, Conversion.run_plain (fault_forSampler defaultCubeSampler .fragment source)⟩,
    fun strict c hrun ↦ ?_, occursIn_renamedLayout_eq_false, fun hlines ↦ ?_⟩
  · rw [Conversion.output_of_run_eq_ok hrun]
    exact occursIn_renamedLayout_iff source
  · obtain ⟨-, -, -, -, -, -, hnewline⟩ := shapes_declarations
    exact not_occurs_interruptions hlines.startsLines declarations_subset hnewline

/-- The inner declaration is deleted, and what is left is the outer one, which strict mode
accepts. -/
theorem run_nested_declaration :
    let source := "layout (location = 0) vec4 layout (location = 1) vec4 out_FragData_1;".toList ++
      "out_FragData_0;".toList
    let output := "#extension GL_EXT_draw_buffers : enable\n ".toList ++
      "layout (location = 0) vec4 gl_FragData[0];".toList
    Text.includes source "gl_FragData".toList = false ∧
      downgrade .fragment source = output ∧ renamedLayout.occursIn output = true ∧
      (Conversion.run standard true .fragment source).map Conversion.output = .ok output := by
  decide +kernel

end Chain

end ShaderDowngrade

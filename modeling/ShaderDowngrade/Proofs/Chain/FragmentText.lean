import ShaderDowngrade.Proofs.Chain.Early

/-!
# What the chain makes of a fragment shader

At the fragment stage the inputs are qualified, the numbered outputs are renamed after their layout
declarations have been deleted, the single output is renamed, and the depth output is renamed. Two
of the rules that would follow the renaming of the single output never match.

Main statements: `Chain.downgrade_fragment`, the text as the texts of the steps;
`Chain.exists_unlaid_fragmentText`, all steps behind the qualified inputs but the deletion are
exchanges; `Chain.occurs_indexedOutputs_iff`, the deletion joins no word without a newline if the
declarations stand at the starts of lines.
-/

namespace ShaderDowngrade

namespace Chain

variable {stage : Stage} {source t : Text} {W : Set Text} {ws : List Shape}

/-! ## Directives in front of the text -/

theorem occurs_prependDirective (d : String) (h : Text.Occurs W t) :
    Text.Occurs W (prependDirective d t) :=
  h.of_isInfix (List.suffix_append _ t).isInfix

/-- A rule whose pattern does not begin in the directive leaves it in front. -/
theorem exists_prependDirective {r : Rule} {p : Pattern} {replacement : Match → Text} {d : String}
    (h : r.Replaces stage p replacement)
    (hout : Shape.outside p.shapes (Exchange.directive d).put = true) (t : Text) :
    ∃ t', r.output stage (prependDirective d t) = prependDirective d t' ∧
      p.Rewrites replacement t t' := by
  refine (h.rewrites (prependDirective d t)).exists_append ?_
  rw [← Shape.words_ofWord]
  exact (Shape.outside_words hout).mono p.words_subset (le_refl _)

/-! ## The steps -/

/-- The text after the input rule. -/
def qualified (source : Text) : Text := fragmentInput.output .fragment (renamed .fragment source)

/-- The text after the rule for the single output. -/
def singled (source : Text) : Text :=
  singleRename.output .fragment (indexedOutputs.output .fragment (qualified source))

/-- The text that the rules of the fragment stage leave. -/
def fragmentText (source : Text) : Text := depthOutput.output .fragment (singled source)

theorem exchanged_qualified (source : Text) :
    Exchanged [.version, .cube, .sampling, .input "varying "] source (qualified source) :=
  (exchanged_renamed .fragment source).trans (exchanged_input replaces_fragmentInput _).1

theorem exchanged_qualified_typed (source : Text) :
    Exchanged [.version, .cube, .sampling, .typedInput "varying "] source (qualified source) :=
  (exchanged_renamed .fragment source).trans (exchanged_input replaces_fragmentInput _).2

theorem includes_singleRename (t : Text) :
    Text.includes (singleRename.output .fragment t) "out_FragColor".toList = false :=
  replaces_singleRename.includes_eq_false rfl (by cbv) (by rfl) t

theorem not_occurs_of_not_includes (h : Text.includes t "out_FragColor".toList = false) :
    ¬ Text.Occurs Pattern.singleOutputElement.words t ∧
      ¬ Text.Occurs Pattern.singleLayout.words t := by
  have hnot {w : Text} (hw : "out_FragColor".toList <:+: w) : ¬ w <:+: t := fun hwt ↦ by
    rw [Text.includes_iff.2 (hw.trans hwt)] at h
    cases h
  constructor
  · rintro ⟨w, ⟨g, hw⟩, hwt⟩
    obtain ⟨v, rfl, -⟩ := Expr.spells_seqAll_map_char_append.1 hw
    exact hnot ⟨[], "[".toList ++ v, by simp⟩ hwt
  · rintro ⟨w, hw, hwt⟩
    rw [Pattern.words_of_expr_eq_word rfl, Set.mem_singleton_iff] at hw
    refine hnot ?_ hwt
    rw [hw, ← Text.includes_iff]
    cbv

theorem output_of_not_includes (h : Text.includes t "out_FragColor".toList = false) :
    singleElementRename.output .fragment t = t ∧ singleLayoutRemoval.output .fragment t = t := by
  obtain ⟨helement, hlayout⟩ := not_occurs_of_not_includes h
  exact ⟨(replaces_singleElementRename.rewrites t).eq_of_not_occurs helement,
    (replaces_singleLayoutRemoval.rewrites t).eq_of_not_occurs hlayout⟩

theorem exchanged_depthOutput (t : Text) :
    Exchanged [.directive fragDepthDirective, .depth] t (depthOutput.output .fragment t) := by
  rw [depthOutput_output]
  split
  · exact (exchanged_prependDirective _ t).trans (exchanged_depthRename _)
  · exact .refl

/-- The later rules before the depth group. -/
def beforeDepth : List Rule :=
  [fragmentInput, vertexInput, vertexOutput, indexedOutputs, singleRename, singleElementRename,
    singleLayoutRemoval]

theorem late_eq_beforeDepth : late = beforeDepth ++ [depthOutput] := rfl

theorem text_applyAll_fragmentInput {rs : List Rule} {outer : String} :
    (Rule.applyAll (fragmentInput :: vertexInput :: vertexOutput :: rs) .fragment outer t).text =
      (Rule.applyAll rs .fragment outer (fragmentInput.output .fragment t)).text := by
  rw [Rule.text_applyAll_cons replaces_fragmentInput.applicable,
    Rule.text_applyAll_cons_of_not_admits rfl, Rule.text_applyAll_cons_of_not_admits rfl]

theorem applicable_beforeDepth : ∀ r ∈ beforeDepth, r.Applicable .fragment := by
  simp only [beforeDepth, List.forall_mem_cons]
  exact ⟨replaces_fragmentInput.applicable, Rule.applicable_of_not_admits rfl,
    Rule.applicable_of_not_admits rfl, applicable_indexedOutputs, replaces_singleRename.applicable,
    replaces_singleElementRename.applicable, replaces_singleLayoutRemoval.applicable, by simp⟩

theorem text_applyAll_beforeDepth (source : Text) :
    (Rule.applyAll beforeDepth .fragment "" (renamed .fragment source)).text = singled source := by
  obtain ⟨helement, hlayout⟩ := output_of_not_includes (includes_singleRename
    (indexedOutputs.output .fragment (qualified source)))
  rw [beforeDepth, text_applyAll_fragmentInput, Rule.text_applyAll_cons applicable_indexedOutputs,
    Rule.text_applyAll_cons replaces_singleRename.applicable,
    Rule.text_applyAll_cons replaces_singleElementRename.applicable, ← qualified, helement,
    Rule.text_applyAll_cons replaces_singleLayoutRemoval.applicable, hlayout,
    Rule.text_applyAll_nil, singled]

theorem downgrade_fragment (source : Text) : downgrade .fragment source = fragmentText source := by
  rw [downgrade_eq, late_eq_beforeDepth, Rule.text_applyAll_append applicable_beforeDepth,
    text_applyAll_beforeDepth, Rule.text_applyAll_cons applicable_depthOutput,
    Rule.text_applyAll_nil, fragmentText]

/-! ## The numbered outputs -/

/-- The deletion leaves the directive alone. -/
theorem exists_unlaid_behind (t : Text) : ∃ d,
    indexedLayoutRemoval.output .fragment (prependDirective drawBuffersDirective t) =
        prependDirective drawBuffersDirective d ∧
      Pattern.indexedLayout.Rewrites (fun _ ↦ []) t d :=
  exists_prependDirective replaces_indexedLayoutRemoval (by cbv) t

theorem not_occurs_indexedLayout (h : Pattern.indexedOutput.occursIn t = false) :
    ¬ Text.Occurs Pattern.indexedLayout.words t := by
  rintro ⟨w, hw, hwt⟩
  obtain ⟨v, hv, hvw⟩ := Pattern.exists_infix_of_mem_indexedLayout hw
  rw [Pattern.occursIn_indexedOutput, Pattern.occursIn_eq_false_iff (by rfl)] at h
  exact h ⟨v, hv, hvw.trans hwt⟩

/-- The group of numbered outputs demands that there are none: the deletion of declarations demands
nothing more, since each of them names one. -/
theorem violations_indexedOutputs_eq_nil_iff : indexedOutputs.violations .fragment t = [] ↔
    Pattern.anyIndexedOutput.occursIn t = false := by
  have hgroup : indexedOutputs.violations .fragment t =
      indexedLayoutRemoval.violations .fragment t ++
        (indexedRename.violations .fragment t ++ []) := rfl
  rw [hgroup, List.append_nil, List.append_eq_nil_iff, indexedLayoutRemoval, indexedRename,
    Rule.violations_eq_nil_iff rfl rfl, Rule.violations_eq_nil_iff rfl rfl]
  refine and_iff_right_of_imp fun h ↦ ?_
  rw [← Pattern.occursIn_indexedOutput] at h
  rw [Pattern.occursIn_eq_false_iff (by rfl)]
  exact not_occurs_indexedLayout h

/-- But for the deletion of layout declarations, the group exchanges, and it keeps what is apart
from the numbered outputs. -/
theorem exists_unlaid (t : Text) : ∃ d,
    Pattern.indexedLayout.Rewrites (fun _ ↦ []) t d ∧
      Exchanged [.directive drawBuffersDirective, .indexed] d (indexedOutputs.output .fragment t) ∧
      ∀ ⦃W⦄, Text.Apart W (Shape.words ([.indexed].flatMap Exchange.taken)) → Text.Occurs W d →
        Text.Occurs W (indexedOutputs.output .fragment t) := by
  rw [indexedOutputs_output]
  split
  · obtain ⟨d, houtput, hd⟩ := exists_unlaid_behind t
    rw [houtput]
    exact ⟨d, hd, (exchanged_prependDirective _ d).trans (exchanged_indexedRename _),
      fun W hW h ↦ (exchanged_indexedRename _).occurs hW (occurs_prependDirective _ h)⟩
  · rename_i h
    -- without a numbered output there is no declaration, and the deletion would change nothing
    have hrewrites := Pattern.rewrites_replaceWith (p := Pattern.indexedLayout) (by rfl)
      (Pattern.nil_notMem_words (by rfl)) (fun _ ↦ []) t
    rw [hrewrites.eq_of_not_occurs (not_occurs_indexedLayout (by simpa using h))] at hrewrites
    exact ⟨t, hrewrites, .refl, fun _ _ h ↦ h⟩

/-- Deleting declarations at the starts of lines joins no word without a newline. -/
theorem occurs_of_unlaid {d : Text} (h : Pattern.indexedLayout.Rewrites (fun _ ↦ []) t d)
    (hlines : Text.StartsLines Pattern.indexedLayout.words t) (hW : W ⊆ Shape.words ws)
    (hne : ws.all (!·.isEmpty) = true) (hnewline : ws.all (Shape.avoids '\n') = true)
    (hd : Text.Occurs W d) : Text.Occurs W t := by
  have hnil : [] ∉ W := fun hnil ↦ by
    obtain ⟨s, hs, hfits⟩ := hW hnil
    cases hfits
    cases List.all_eq_true.1 hne [] hs
  rcases h.occurs_of_deleted hnil hd with ht | ⟨k, q, x, hk, -, hkq, hx, hi⟩
  · exact ht
  · obtain ⟨s, hs, hfits⟩ := hW hkq
    have hlast := hlines.getLast?_eq_newline hx hk hi
    exact absurd (List.mem_append_left q (List.mem_of_getLast? hlast))
      (Shape.notMem_of_avoids (List.all_eq_true.1 hnewline s hs) hfits)

/-- The group keeps what is apart from the pieces that it takes out. -/
theorem occurs_indexedOutputs (hW : W ⊆ Shape.words ws)
    (hlayout : Shape.apart ws Pattern.indexedLayout.shapes = true)
    (htaken : Shape.apart ws ([.indexed].flatMap Exchange.taken) = true)
    (h : Text.Occurs W t) : Text.Occurs W (indexedOutputs.output .fragment t) := by
  obtain ⟨d, hd, -, hkept⟩ := exists_unlaid t
  refine hkept ((Shape.apart_words htaken).mono hW (le_refl _)) ?_
  exact hd.occurs_of_apart
    ((Shape.apart_words hlayout).mono hW Pattern.indexedLayout.words_subset) h

/-- The group neither makes nor breaks a word without a newline that is apart from all pieces it
handles, if the layout declarations stand at the starts of lines. -/
theorem occurs_indexedOutputs_iff (hW : W ⊆ Shape.words ws) (hne : ws.all (!·.isEmpty) = true)
    (hnewline : ws.all (Shape.avoids '\n') = true)
    (hlayout : Shape.apart ws Pattern.indexedLayout.shapes = true)
    (htaken : Shape.apart ws ([.indexed].flatMap Exchange.taken) = true)
    (hput : Shape.apart ws
      ([.directive drawBuffersDirective, .indexed].flatMap Exchange.put) = true)
    (hlines : Text.StartsLines Pattern.indexedLayout.words t) :
    Text.Occurs W (indexedOutputs.output .fragment t) ↔ Text.Occurs W t := by
  obtain ⟨d, hd, hexchanged, -⟩ := exists_unlaid t
  exact ⟨fun h ↦ occurs_of_unlaid hd hlines hW hne hnewline (hexchanged.occurs_of_occurs hW hput h),
    occurs_indexedOutputs hW hlayout htaken⟩

theorem occursIn_indexedOutputs (t : Text) :
    Pattern.anyIndexedOutput.occursIn (indexedOutputs.output .fragment t) = false := by
  rw [← Pattern.occursIn_indexedOutput, indexedOutputs_output]
  split
  · rw [Pattern.occursIn_eq_false_iff (by rfl)]
    exact replaces_indexedRename.not_occurs (fun _ hm ↦ mem_put_indexed hm) (by cbv) (by rfl) _
  · rename_i h
    rwa [Bool.not_eq_true] at h

theorem prefix_indexedOutputs (h : Pattern.indexedOutput.occursIn t = true) : ∃ d,
    indexedOutputs.output .fragment t = prependDirective drawBuffersDirective d := by
  obtain ⟨d, houtput, -⟩ := exists_unlaid_behind t
  rw [indexedOutputs_output, if_pos h, houtput]
  have hout : Shape.outside Pattern.indexedOutput.shapes
      (Exchange.directive drawBuffersDirective).put = true := by cbv
  exact (exists_prependDirective replaces_indexedRename hout d).imp fun _ h ↦ h.1

/-! ## The depth output -/

theorem violations_depthOutput_eq_nil_iff : depthOutput.violations .fragment t = [] ↔
    Pattern.bareDepth.occursIn t = false := by
  have hgroup : depthOutput.violations .fragment t =
      depthRename.violations .fragment t ++ [] := rfl
  rw [hgroup, List.append_nil, depthRename, Rule.violations_eq_nil_iff rfl rfl]

theorem occursIn_bareDepth_iff (t : Text) : Pattern.bareDepth.occursIn t = true ↔
    ∃ u v, t = u ++ "gl_FragDepth".toList ++ v ∧ ¬ "EXT".toList <+: v := by
  -- what the pattern is at one place: the word, and then the lookahead
  have hmatch (position : Nat) (rest : Text) :
      (Pattern.bareDepth.expr.matchAt position true rest).isSome = true ↔
        ∃ v, rest = "gl_FragDepth".toList ++ v ∧ ¬ "EXT".toList <+: v := by
    rw [Expr.matchAt, Option.isSome_map, Pattern.bareDepth, Pattern.chars,
      Expr.run_seqAll_map_char_append]
    by_cases hpre : "gl_FragDepth".toList.isPrefixOf rest = true
    · obtain ⟨v, rfl⟩ := List.isPrefixOf_iff_prefix.1 hpre
      simp only [hpre, if_true, Expr.seqAll, Expr.run_seq, Expr.run, Expr.run_word,
        List.drop_left, List.append_cancel_left_eq, exists_eq_left']
      rw [← List.isPrefixOf_iff_prefix]
      by_cases hv : "EXT".toList.isPrefixOf v = true
      · rw [if_pos hv]
        exact iff_of_false Bool.false_ne_true (not_not_intro hv)
      · rw [if_neg hv]
        exact iff_of_true rfl hv
    · rw [if_neg hpre]
      refine iff_of_false Bool.false_ne_true ?_
      rintro ⟨v, hv, -⟩
      exact hpre (List.isPrefixOf_iff_prefix.2 ⟨v, hv.symm⟩)
  rw [Pattern.occursIn, Expr.occursFrom_iff_exists]
  simp only [hmatch]
  constructor
  · rintro ⟨u, _, rfl, v, rfl, hv⟩
    exact ⟨u, v, by simp, hv⟩
  · rintro ⟨u, v, rfl, hv⟩
    exact ⟨u, _, by simp, v, rfl, hv⟩

theorem suffix_of_depthRename {s : Text}
    (h : (Pattern.ofWord "gl_FragDepth").Rewrites (fun _ ↦ "gl_FragDepthEXT".toList) s t)
    {u v : Text} (ht : t = u ++ "gl_FragDepth".toList ++ v) : "EXT".toList <+: v := by
  have hwords : (Pattern.ofWord "gl_FragDepth").words = {"gl_FragDepth".toList} :=
    Pattern.words_of_expr_eq_word rfl
  have hreach : Text.ReachesBy ∅ {"gl_FragDepth".toList} {"gl_FragDepthEXT".toList} := by
    rw [← Shape.words_ofWord, ← Shape.words_ofWord]
    exact Shape.reachesBy_of_stubs_eq_nil (by cbv)
  have houtside : Text.Outside {"gl_FragDepth".toList} {"l_FragDepthEXT".toList} := by
    rw [← Shape.words_ofWord, ← Shape.words_ofWord]
    exact Shape.outside_words (by cbv)
  induction h generalizing u with
  | done => simp at ht
  | @keep c b b' hc h ih =>
    cases u with
    | nil =>
      have hpre : "gl_FragDepth".toList <+: [c] ++ b' := ⟨v, ht.symm⟩
      rcases h.prefix_or_stub (fun _ _ ↦ Set.mem_singleton _) hreach rfl (List.cons_ne_nil c [])
        hpre with hs | ⟨_, hk, -⟩
      · exact absurd hs (hc _ (hwords ▸ rfl))
      · exact hk.elim
    | cons d u => exact ih (List.cons.inj ht).2
  | @found m b b' _ h ih =>
    rcases Text.beginning_cases ht with ⟨r, hr, -⟩ | ⟨q, hq, huq, he⟩
    · exact ih hr
    · -- it begins in the new name: at its first character, since the word does not recur in it
      cases u with
      | nil =>
        obtain rfl : "gl_FragDepthEXT".toList = q := huq
        have : "EXT".toList ++ b' = v := by simpa using he
        exact ⟨b', this⟩
      | cons d u =>
        exact absurd (Text.comparable_of_append_eq he)
          (houtside rfl rfl (List.cons.inj huq).2 hq)

theorem occursIn_depthOutput (t : Text) :
    Pattern.bareDepth.occursIn (depthOutput.output .fragment t) = false := by
  rw [← Bool.not_eq_true, occursIn_bareDepth_iff]
  rintro ⟨u, v, ht, hv⟩
  rw [depthOutput_output] at ht
  split at ht
  · exact hv (suffix_of_depthRename (replaces_depthRename.rewrites _) ht)
  · rename_i h
    exact h (Text.includes_iff.2 ⟨u, v, ht.symm⟩)

theorem occurs_depthOutput (hW : Text.Apart W (Shape.words ([.depth].flatMap Exchange.taken)))
    (ht : Text.Occurs W t) : Text.Occurs W (depthOutput.output .fragment t) := by
  rw [depthOutput_output]
  split
  · exact (exchanged_depthRename _).occurs hW (occurs_prependDirective _ ht)
  · exact ht

theorem prefix_depthOutput (h : Text.includes t "gl_FragDepth".toList = true) : ∃ d,
    depthOutput.output .fragment t = prependDirective fragDepthDirective d := by
  rw [depthOutput_output, if_pos h]
  have hout : Shape.outside (Pattern.ofWord "gl_FragDepth").shapes
      (Exchange.directive fragDepthDirective).put = true := by cbv
  exact (exists_prependDirective replaces_depthRename hout t).imp fun _ h ↦ h.1

/-! ## The steps together -/

/-- But for the deletion of layout declarations, all steps behind the input rule exchange, and they
keep what is apart from the outputs. -/
theorem exists_unlaid_fragmentText (source : Text) : ∃ d,
    Pattern.indexedLayout.Rewrites (fun _ ↦ []) (qualified source) d ∧
      Exchanged [.directive drawBuffersDirective, .indexed, .single, .directive fragDepthDirective,
        .depth] d (fragmentText source) ∧
      ∀ ⦃W⦄, Text.Apart W (Shape.words ([.indexed, .single, .depth].flatMap Exchange.taken)) →
        Text.Occurs W d → Text.Occurs W (fragmentText source) := by
  obtain ⟨d, hd, hindexed, hkept⟩ := exists_unlaid (qualified source)
  refine ⟨d, hd, (hindexed.trans (exchanged_singleRename _)).trans (exchanged_depthOutput _), ?_⟩
  intro W hW h
  have hsteps {x : Exchange} (hx : x ∈ [.indexed, .single, .depth]) :
      Text.Apart W (Shape.words ([x].flatMap Exchange.taken)) :=
    hW.mono (le_refl _) (Shape.words_subset_words fun _ hs ↦
      List.mem_flatMap.2 ⟨x, hx, by simpa using hs⟩)
  exact occurs_depthOutput (hsteps (by simp))
    ((exchanged_singleRename _).occurs (hsteps (by simp)) (hkept (hsteps (by simp)) h))

end Chain

end ShaderDowngrade

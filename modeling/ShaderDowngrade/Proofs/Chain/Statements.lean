import ShaderDowngrade.Proofs.Chain.Directives
import ShaderDowngrade.Proofs.Pattern.Cut

/-!
# Statement by statement

No rule of the chain looks beyond a semicolon, and none takes a semicolon away, but for the deletion
of layout declarations, which end in one. So a shader can be converted in two parts if the first of
them ends in a semicolon: a vertex shader in any case, and a fragment shader if it has no layout
declarations of numbered outputs. In the latter case the directives go in front of the whole, and
the statement is about what stands behind them.

Main statement: `Chain.run_statements`, the conversion of a text that is cut behind a semicolon.

## Why the groups do no harm

A group asks its probe about the whole text, so it may run on a part that its rules have nothing to
do with. Without layout declarations each group has one rule besides its directive, and that rule
looks for what the probe looks for, so on such a part it finds nothing.
-/

namespace ShaderDowngrade

/-! ## Rules that treat parts on their own -/

namespace Rule

variable {c : Char} {r : Rule} {rs : List Rule} {stage : Stage} {outer : String} {a b : Text}

/-- At the stage the rule can be applied to every text, and it treats the two parts of a text on
their own if the first part ends in the character; that part ends in the character ever after. -/
structure Splits (c : Char) (r : Rule) (stage : Stage) : Prop where
  /-- The rule never fails. -/
  applicable : r.Applicable stage
  /-- The parts are treated on their own. -/
  output_append : ∀ {a : Text}, a.getLast? = some c → ∀ b,
    r.output stage (a ++ b) = r.output stage a ++ r.output stage b
  /-- The character stays at the end of a part. -/
  getLast?_output : ∀ {a : Text}, a.getLast? = some c → (r.output stage a).getLast? = some c

theorem splits_of_not_admits (h : r.admits stage = false) : r.Splits c stage where
  applicable := applicable_of_not_admits h
  output_append _ _ := by
    rw [(idle_of_not_admits h).1, (idle_of_not_admits h).1, (idle_of_not_admits h).1]
  getLast?_output ha := by rwa [(idle_of_not_admits h).1]

/-- A rule whose matches do not go on beyond the character, and keep it. -/
theorem Replaces.splits {p : Pattern} {replacement : Match → Text}
    (h : r.Replaces stage p replacement) (hstops : p.expr.Stops c true = true)
    (hplain : p.expr.Plain = true) (hne : [] ∉ p.words)
    (hkept : ∀ m, p.expr.Spells m.text m.groups → m.text.getLast? = some c →
      (replacement m).getLast? = some c) : r.Splits c stage where
  applicable := h.applicable
  output_append ha b := by
    rw [h.output_eq, h.output_eq, h.output_eq]
    exact (Pattern.cutsAt_of_stops hstops hplain hne).replaceWith_append ha replacement b
  getLast?_output ha := (h.rewrites _).getLast?_eq_some hne hkept ha

/-- A rule whose matches do not have the character. -/
theorem Replaces.splits_of_avoids {p : Pattern} {replacement : Match → Text}
    (h : r.Replaces stage p replacement) (hstops : p.expr.Stops c true = true)
    (hplain : p.expr.Plain = true) (hshapes : p.shapes.all (!·.isEmpty) = true)
    (havoids : p.shapes.all (Shape.avoids c) = true) : r.Splits c stage := by
  refine h.splits hstops hplain (Pattern.nil_notMem_words hshapes) fun m hm hlast ↦ ?_
  obtain ⟨s, hs, hfits⟩ := p.words_subset ⟨_, hm⟩
  exact absurd (List.mem_of_getLast? hlast)
    (Shape.notMem_of_avoids (List.all_eq_true.1 havoids s hs) hfits)

/-- Rules that treat parts on their own do so one after the other. -/
theorem text_applyAll_append_of_splits (h : ∀ r ∈ rs, r.Splits c stage)
    (ha : a.getLast? = some c) (b : Text) :
    (applyAll rs stage outer (a ++ b)).text =
      (applyAll rs stage outer a).text ++ (applyAll rs stage outer b).text := by
  induction rs generalizing a b with
  | nil => rw [text_applyAll_nil, text_applyAll_nil, text_applyAll_nil]
  | cons r rs ih =>
    obtain ⟨hr, hrs⟩ := List.forall_mem_cons.1 h
    rw [text_applyAll_cons hr.applicable, text_applyAll_cons hr.applicable,
      text_applyAll_cons hr.applicable, hr.output_append ha]
    exact ih hrs (hr.getLast?_output ha) _

end Rule

/-- The output without the header of directives. -/
def Conversion.body (c : Conversion) : Text := c.output.drop (headerOf c.directives).length

namespace Chain

variable {source t a b : Text}

/-! ## The rules stop at semicolons -/

theorem splits_early {stage : Stage} : ∀ r ∈ early, r.Splits ';' stage := by
  simp only [early, List.forall_mem_cons]
  refine ⟨replaces_versionDowngrade.splits_of_avoids ?_ ?_ ?_ ?_,
    replaces_cubeSampling.splits_of_avoids ?_ ?_ ?_ ?_,
    replaces_textureCall.splits_of_avoids ?_ ?_ ?_ ?_, by simp⟩
  all_goals rfl

theorem splits_standard_vertex : ∀ r ∈ standard, r.Splits ';' .vertex := by
  have hinput : vertexInput.Splits ';' .vertex := by
    refine replaces_vertexInput.splits_of_avoids ?_ ?_ ?_ ?_ <;> rfl
  have houtput : vertexOutput.Splits ';' .vertex := by
    refine replaces_vertexOutput.splits (by rfl) (by rfl) (Pattern.nil_notMem_words (by rfl)) ?_
    intro m _ _
    exact List.getLast?_concat
  rw [standard_eq, late]
  simp only [List.forall_mem_append, List.forall_mem_cons]
  exact ⟨splits_early, Rule.splits_of_not_admits rfl, hinput, houtput,
    Rule.splits_of_not_admits rfl, Rule.splits_of_not_admits rfl, Rule.splits_of_not_admits rfl,
    Rule.splits_of_not_admits rfl, Rule.splits_of_not_admits rfl, by simp⟩

/-- What the rules of the fragment stage do to a text without layout declarations, but for the
directives. -/
def wordwise : List Rule :=
  early ++ [fragmentInput, indexedRename, singleRename, singleElementRename, singleLayoutRemoval,
    depthRename]

theorem splits_wordwise : ∀ r ∈ wordwise, r.Splits ';' .fragment := by
  rw [wordwise]
  simp only [List.forall_mem_append, List.forall_mem_cons]
  refine ⟨splits_early, replaces_fragmentInput.splits_of_avoids ?_ ?_ ?_ ?_,
    replaces_indexedRename.splits_of_avoids ?_ ?_ ?_ ?_,
    replaces_singleRename.splits_of_avoids ?_ ?_ ?_ ?_,
    replaces_singleElementRename.splits_of_avoids ?_ ?_ ?_ ?_,
    replaces_singleLayoutRemoval.splits_of_avoids ?_ ?_ ?_ ?_,
    replaces_depthRename.splits_of_avoids ?_ ?_ ?_ ?_, by simp⟩
  all_goals rfl

/-! ## Without layout declarations -/

/-- A group that comes down to the rule that looks for what its probe looks for is that rule. -/
theorem output_group_eq {name description : String} {p : Pattern} {gate : Gate} {stage : Stage}
    {rs : List Rule} {r : Rule} {replacement : Match → Text} (hgate : gate.admits stage = true)
    (h : r.Replaces stage p replacement) (hplain : p.expr.Plain = true)
    (hrules : (Rule.applyAll rs stage name t).text = r.output stage t) :
    (Rule.group name p gate description rs).output stage t = r.output stage t := by
  rw [Rule.output_group hgate]
  by_cases hp : p.occursIn t = true
  · rw [if_pos hp, hrules]
  · rw [if_neg hp]
    rw [Bool.not_eq_true, Pattern.occursIn_eq_false_iff hplain] at hp
    exact ((h.rewrites t).eq_of_not_occurs hp).symm

theorem not_occurs_layout_qualified (h : Pattern.indexedLayout.occursIn source = false) :
    ¬ Text.Occurs Pattern.indexedLayout.words (qualified source) := by
  rw [Pattern.occursIn_eq_false_iff (by rfl)] at h
  intro hq
  exact h ((exchanged_qualified_typed source).occurs_of_occurs Pattern.indexedLayout.words_subset
    (by cbv) hq)

theorem text_withoutPrepends (h : Pattern.indexedLayout.occursIn source = false) :
    (Rule.applyAll (Rule.withoutPrependsAll standard) .fragment "" source).text =
      (Rule.applyAll wordwise .fragment "" source).text := by
  have hidle : indexedLayoutRemoval.output .fragment (qualified source) = qualified source :=
    (replaces_indexedLayoutRemoval.rewrites _).eq_of_not_occurs (not_occurs_layout_qualified h)
  -- each group comes down to one rule
  let bareIndexed (description : String) : Rule :=
    .group "DrawBuffersOutputs" .indexedOutput .fragmentOnly description
      [indexedLayoutRemoval, indexedRename]
  let bareDepth (description : String) : Rule :=
    .group "FragDepthOutput" (.ofWord "gl_FragDepth") .fragmentOnly description [depthRename]
  have hindexed (description : String) : (bareIndexed description).output .fragment
      (qualified source) = indexedRename.output .fragment (qualified source) := by
    refine output_group_eq rfl replaces_indexedRename (by rfl) ?_
    rw [Rule.text_applyAll_cons replaces_indexedLayoutRemoval.applicable, hidle,
      Rule.text_applyAll_cons replaces_indexedRename.applicable, Rule.text_applyAll_nil]
  have hdepth (description : String) (t : Text) :
      (bareDepth description).output .fragment t = depthRename.output .fragment t := by
    refine output_group_eq rfl replaces_depthRename (by rfl) ?_
    rw [Rule.text_applyAll_cons replaces_depthRename.applicable, Rule.text_applyAll_nil]
  have hindexedApplicable (description : String) :
      (bareIndexed description).Applicable .fragment := by
    refine Rule.applicable_group ?_
    simp only [List.forall_mem_cons]
    exact ⟨replaces_indexedLayoutRemoval.applicable, replaces_indexedRename.applicable, by simp⟩
  have hdepthApplicable (description : String) : (bareDepth description).Applicable .fragment := by
    refine Rule.applicable_group ?_
    simp only [List.forall_mem_cons]
    exact ⟨replaces_depthRename.applicable, by simp⟩
  have hbare : ∃ description description', Rule.withoutPrependsAll standard = early ++
      [fragmentInput, vertexInput, vertexOutput, bareIndexed description, singleRename,
        singleElementRename, singleLayoutRemoval, bareDepth description'] := ⟨_, _, rfl⟩
  obtain ⟨description, description', hbare⟩ := hbare
  rw [hbare, wordwise, Rule.text_applyAll_append applicable_early,
    Rule.text_applyAll_append applicable_early, ← renamed, text_applyAll_fragmentInput,
    Rule.text_applyAll_cons replaces_fragmentInput.applicable, ← qualified,
    Rule.text_applyAll_cons (hindexedApplicable description), hindexed,
    Rule.text_applyAll_cons replaces_indexedRename.applicable]
  simp only [Rule.text_applyAll_cons replaces_singleRename.applicable,
    Rule.text_applyAll_cons replaces_singleElementRename.applicable,
    Rule.text_applyAll_cons replaces_singleLayoutRemoval.applicable,
    Rule.text_applyAll_cons (hdepthApplicable description'), hdepth,
    Rule.text_applyAll_cons replaces_depthRename.applicable]

/-! ## The header and the body -/

/-- The header of directives stands in front of the body, and the body is what the chain leaves
without the rules that put directives in front. -/
theorem output_eq_header_append {cubeSampler : String} {stage : Stage} {c : Conversion}
    (hc : Conversion.run (forSampler cubeSampler) false stage source = .ok c) :
    c.output = headerOf c.directives ++ c.body ∧
      c.directives = (Rule.applyAll (forSampler cubeSampler) stage "" source).directives ∧
      c.body = (Rule.applyAll (Rule.withoutPrependsAll (forSampler cubeSampler)) stage ""
        source).text := by
  have htext := (headed_forSampler cubeSampler stage source).text_eq
  rw [List.append_nil] at htext
  rw [Conversion.run_plain (fault_forSampler cubeSampler stage source)] at hc
  have hparts : c.directives =
        (Rule.applyAll (forSampler cubeSampler) stage "" source).directives ∧
      c.output = headerOf c.directives ++
        (Rule.applyAll (Rule.withoutPrependsAll (forSampler cubeSampler)) stage ""
          source).text := by
    obtain rfl := Except.ok.inj hc
    exact ⟨rfl, htext⟩
  obtain ⟨hdirectives, houtput⟩ := hparts
  have hbody : c.body =
      (Rule.applyAll (Rule.withoutPrependsAll (forSampler cubeSampler)) stage "" source).text := by
    rw [Conversion.body, houtput, List.drop_left]
  exact ⟨by rw [hbody, houtput], hdirectives, hbody⟩

/-- Without layout declarations the directives are those of the outputs in the source. -/
theorem mem_directives_iff (h : Pattern.indexedLayout.occursIn source = false) (d : CodeString) :
    d ∈ (Rule.applyAll (forSampler defaultCubeSampler) .fragment "" source).directives ↔
      (d = (fragDepthDirective : CodeString) ∧
          (Pattern.ofWord "gl_FragDepth").occursIn source = true) ∨
        d = (drawBuffersDirective : CodeString) ∧
          Pattern.anyIndexedOutput.occursIn source = true := by
  have hlines : LayoutsStartLines source := by
    intro n hn hmatch
    have hoccurs : Pattern.indexedLayout.occursIn source = true := by
      rw [Pattern.occursIn, Expr.occursFrom_iff_exists]
      refine ⟨source.take n, source.drop n, (List.take_append_drop n source).symm, ?_⟩
      rwa [List.length_take_of_le hn, Nat.zero_add]
    rw [h] at hoccurs
    cases hoccurs
  have hdepth := includes_singled hlines (w := "gl_FragDepth") (by simp [depthWords])
  rw [directives_standard_fragment, hdepth, List.mem_append, List.mem_ite_nil_right,
    List.mem_ite_nil_right, List.mem_singleton, List.mem_singleton,
    Pattern.occursIn_of_expr_eq_word (p := .ofWord "gl_FragDepth") rfl, and_comm,
    and_comm (b := d = _)]

/-- **Statement by statement.** A vertex shader can be cut behind a semicolon and converted in two
parts. So can a fragment shader without layout declarations of numbered outputs, but for the
directives in front of it: the body of the whole is that of the parts, and it gets the directives
that the parts get. -/
theorem run_statements (a b : Text) :
    downgrade .vertex (a ++ ";".toList ++ b) =
        downgrade .vertex (a ++ ";".toList) ++ downgrade .vertex b ∧
      (Pattern.indexedLayout.occursIn (a ++ ";".toList ++ b) = false →
        ∃ w x y : Conversion,
          Conversion.run standard false .fragment (a ++ ";".toList ++ b) = .ok w ∧
          Conversion.run standard false .fragment (a ++ ";".toList) = .ok x ∧
          Conversion.run standard false .fragment b = .ok y ∧
          w.body = x.body ++ y.body ∧
          ∀ d, d ∈ w.directives ↔ d ∈ x.directives ∨ d ∈ y.directives) := by
  have hlast : (a ++ ";".toList).getLast? = some ';' := List.getLast?_concat
  refine ⟨Rule.text_applyAll_append_of_splits splits_standard_vertex hlast b, fun h ↦ ?_⟩
  have hcut {p : Pattern} (hstops : p.expr.Stops ';' true = true) (hplain : p.expr.Plain = true)
      (hshapes : p.shapes.all (!·.isEmpty) = true) :
      p.occursIn (a ++ ";".toList ++ b) = (p.occursIn (a ++ ";".toList) || p.occursIn b) :=
    (Pattern.cutsAt_of_stops hstops hplain (Pattern.nil_notMem_words hshapes)).occursIn_append
      hlast b
  have hparts := hcut (p := .indexedLayout) (by rfl) (by rfl) (by rfl)
  rw [h, eq_comm, Bool.or_eq_false_iff] at hparts
  obtain ⟨ha, hb⟩ := hparts
  have hrun (s : Text) : ∃ c, Conversion.run standard false .fragment s = .ok c :=
    ⟨_, Conversion.run_plain (fault_forSampler _ _ _)⟩
  obtain ⟨w, hw⟩ := hrun (a ++ ";".toList ++ b)
  obtain ⟨x, hx⟩ := hrun (a ++ ";".toList)
  obtain ⟨y, hy⟩ := hrun b
  obtain ⟨-, hwdirectives, hwbody⟩ := output_eq_header_append hw
  obtain ⟨-, hxdirectives, hxbody⟩ := output_eq_header_append hx
  obtain ⟨-, hydirectives, hybody⟩ := output_eq_header_append hy
  refine ⟨w, x, y, hw, hx, hy, ?_, fun d ↦ ?_⟩
  · rw [hwbody, hxbody, hybody, ← standard, text_withoutPrepends h, text_withoutPrepends ha,
      text_withoutPrepends hb]
    exact Rule.text_applyAll_append_of_splits splits_wordwise hlast b
  · have hdepth := hcut (p := .ofWord "gl_FragDepth") (by rfl) (by rfl) (by rfl)
    have hindexed := hcut (p := .anyIndexedOutput) (by rfl) (by rfl) (by rfl)
    rw [hwdirectives, hxdirectives, hydirectives, mem_directives_iff h, mem_directives_iff ha,
      mem_directives_iff hb, hdepth, hindexed, Bool.or_eq_true, Bool.or_eq_true, and_or_left,
      and_or_left]
    exact or_or_or_comm

/-- Two outputs, one on either side of the semicolon: each part gets one of the directives. -/
theorem run_statements_two_outputs :
    Pattern.indexedLayout.occursIn
        ("out_FragData_0 = color".toList ++ ";".toList ++ " gl_FragDepth = 1.0;".toList) = false ∧
      ∃ w x y : Conversion,
        Conversion.run standard false .fragment
          ("out_FragData_0 = color".toList ++ ";".toList ++ " gl_FragDepth = 1.0;".toList) = .ok w ∧
        Conversion.run standard false .fragment
          ("out_FragData_0 = color".toList ++ ";".toList) = .ok x ∧
        Conversion.run standard false .fragment " gl_FragDepth = 1.0;".toList = .ok y ∧
        w.body = x.body ++ y.body ∧
        ∀ d, d ∈ w.directives ↔ d ∈ x.directives ∨ d ∈ y.directives := by
  have hlayout : Pattern.indexedLayout.occursIn
      ("out_FragData_0 = color".toList ++ ";".toList ++ " gl_FragDepth = 1.0;".toList) = false := by
    decide +kernel
  exact ⟨hlayout, (run_statements _ _).2 hlayout⟩

end Chain

end ShaderDowngrade

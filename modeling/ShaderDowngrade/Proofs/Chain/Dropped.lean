import ShaderDowngrade.Proofs.Chain.Idle
import ShaderDowngrade.Proofs.Chain.Retained

/-!
# Leaving a rule out

A strict run of the chain without one of its rules ends with a violation, or leaves what the whole
chain leaves, with three exceptions. No check asks for the output declarations of a vertex shader,
so they are left as they are if the rule for them is missing. If the single output is not renamed as
a whole, then the two rules behind it, which never find anything otherwise, get their turn: one of
them renames elements, and the other deletes declarations, which the whole chain keeps. And the
depth output is asked for without its suffix, so a text that has the suffix from the start passes
without the directive and without a second suffix.

Main statement: `Chain.run_without`, a strict run without one of the rules.
-/

namespace ShaderDowngrade

open Text (weight)

/-! ## Strict runs of rules that can be applied -/

/-- A strict run of rules that can be applied ends with a violation, or with a text that passes the
checks. -/
theorem StrictRun.ending_eq_violated_or_ok {rules : List Rule} {stage : Stage}
    (h : ∀ r ∈ rules, r.Applicable stage) (source : Text) :
    (∃ step violations, ending rules stage source = .error (.violated step violations)) ∨
      ending rules stage source = .ok (Rule.applyAll rules stage "" source).text ∧
        Finished.check stage (Rule.applyAll rules stage "" source).text = [] := by
  induction rules generalizing source with
  | nil =>
    rw [ending_nil, verdict, Rule.text_applyAll_nil]
    cases hcheck : Finished.check stage source with
    | nil => exact .inr ⟨rfl, rfl⟩
    | cons v vs => exact .inl ⟨_, _, rfl⟩
  | cons r rs ih =>
    obtain ⟨hr, hrs⟩ := List.forall_mem_cons.1 h
    rw [ending_cons hr, Rule.text_applyAll_cons hr]
    split
    · exact ih hrs _
    · exact .inl ⟨_, _, rfl⟩

/-- A strict conversion by rules that can be applied is refused for a violation, or gives the text
of the plain run, which passes the checks. -/
theorem Conversion.run_strict_eq_violated_or_ok {rules : List Rule} {stage : Stage}
    (h : ∀ r ∈ rules, r.Applicable stage) (source : Text) :
    (∃ step violations,
        Conversion.run rules true stage source = .error (.violated step violations)) ∨
      ∃ c, Conversion.run rules true stage source = .ok c ∧
        c.output = (Rule.applyAll rules stage "" source).text ∧
        Finished.check stage c.output = [] := by
  rw [run_strict]
  rcases StrictRun.ending_eq_violated_or_ok h source with ⟨step, violations, hending⟩ |
    ⟨hending, hcheck⟩
  · rw [hending]
    exact .inl ⟨step, violations, rfl⟩
  · rw [hending]
    exact .inr ⟨_, rfl, rfl, hcheck⟩

namespace Chain

open Finished (Clean clean_of_check_eq_nil)

variable {stage : Stage} {source t : Text}

/-! ## The rules that are not missed in a text that passes the checks -/

theorem takesEffect_versionDowngrade
    (h : Clean stage (Rule.applyAll (standard.drop 1) stage "" t).text) :
    versionDowngrade.takesEffect stage t = false := by
  have hW := singleton_subset_modernShapes (w := "version 300 es") (by simp [modernWords])
  have hword : {"version 300 es".toList} ⊆ Shape.words [.ofWord "version 300 es".toList] :=
    (Shape.words_ofWord _).ge
  have hretains : ∀ r ∈ standard.drop 1, r.Retains {"version 300 es".toList} stage := by
    change ∀ r ∈ cubeSampling defaultCubeSampler :: textureCall :: late, _
    rw [List.forall_mem_cons, List.forall_mem_cons]
    exact ⟨replaces_cubeSampling.retains hword (by cbv),
      replaces_textureCall.retains hword (by cbv), retains_late hW latePieces_apart⟩
  rw [Rule.takesEffect_of_admits rfl]
  exact finds_word_eq_false rfl hretains h.version

theorem takesEffect_cubeSampling
    (h : Clean stage (Rule.applyAll (standard.drop 2) stage "" t).text) :
    (cubeSampling defaultCubeSampler).takesEffect stage t = false := by
  have hretains : ∀ r ∈ standard.drop 2, r.Retains {defaultCubeSampler.toList} stage :=
    retains_cubeSampler
  rw [Rule.takesEffect_of_admits rfl]
  exact finds_word_eq_false rfl hretains h.cube

theorem takesEffect_textureCall
    (h : Clean stage (Rule.applyAll (standard.drop 3) stage "" t).text) :
    textureCall.takesEffect stage t = false := by
  have hW := singleton_subset_modernShapes (w := "texture(") (by simp [modernWords])
  have hretains : ∀ r ∈ standard.drop 3, r.Retains {"texture(".toList} stage :=
    retains_late hW latePieces_apart
  rw [Rule.takesEffect_of_admits rfl]
  exact finds_word_eq_false rfl hretains h.sampling

theorem retains_behind_input : ∀ r ∈ vertexOutput :: indexedOutputs :: plainOutputs,
    r.Retains Pattern.inputDeclaration.words stage := by
  have hapart := outputPieces_apart
  rw [List.forall_mem_cons] at hapart ⊢
  exact ⟨retains_vertexOutput Pattern.inputDeclaration.words_subset hapart.1,
    retains_outputs Pattern.inputDeclaration.words_subset hapart.2⟩

theorem takesEffect_fragmentInput
    (h : Clean stage (Rule.applyAll (standard.drop 4) stage "" t).text) :
    fragmentInput.takesEffect stage t = false := by
  cases stage with
  | vertex => exact Rule.takesEffect_of_not_admits rfl
  | fragment =>
    have hretains : ∀ r ∈ standard.drop 4,
        r.Retains Pattern.inputDeclaration.words .fragment := by
      change ∀ r ∈ vertexInput :: vertexOutput :: indexedOutputs :: plainOutputs, _
      rw [List.forall_mem_cons]
      exact ⟨Rule.retains_of_not_admits rfl, retains_behind_input⟩
    rw [Rule.takesEffect_of_admits rfl]
    exact finds_inputDeclaration_eq_false hretains h

theorem takesEffect_vertexInput
    (h : Clean stage (Rule.applyAll (standard.drop 5) stage "" t).text) :
    vertexInput.takesEffect stage t = false := by
  cases stage with
  | fragment => exact Rule.takesEffect_of_not_admits rfl
  | vertex =>
    have hretains : ∀ r ∈ standard.drop 5, r.Retains Pattern.inputDeclaration.words .vertex :=
      retains_behind_input
    rw [Rule.takesEffect_of_admits rfl]
    exact finds_inputDeclaration_eq_false hretains h

theorem takesEffect_indexedOutputs
    (h : Clean stage (Rule.applyAll (standard.drop 7) stage "" t).text) :
    indexedOutputs.takesEffect stage t = false := by
  cases stage with
  | vertex => exact Rule.takesEffect_of_not_admits rfl
  | fragment =>
    have hretains : ∀ r ∈ standard.drop 7,
        r.Retains Pattern.anyIndexedOutput.words .fragment :=
      retains_plainOutputs Pattern.anyIndexedOutput.words_subset plainOutputPieces_apart
    rw [Rule.takesEffect_of_admits rfl]
    refine finds_eq_false_of_retains hretains (by rfl) Pattern.words_indexedOutput.le ?_
    rw [← Pattern.occursIn_eq_false_iff (by rfl)]
    exact h.indexed rfl

/-! ## The single output -/

/-- If renaming the elements leaves no single output, then there was nothing but elements, and
renaming the output as a whole would have come to the same. -/
theorem singleElementRename_eq_singleRename
    (h : Text.includes (singleElementRename.output .fragment t) "out_FragColor".toList = false) :
    singleElementRename.output .fragment t = singleRename.output .fragment t := by
  have hwords : (Pattern.ofWord "out_FragColor").words = {"out_FragColor".toList} :=
    Pattern.words_of_expr_eq_word rfl
  -- no element begins inside the word, and the word does not begin in what elements end in
  have htail : Text.Outside Pattern.singleOutputElement.words {"ut_FragColor".toList} := by
    rw [← Shape.words_ofWord]
    exact (Shape.outside_words (by cbv)).mono Pattern.singleOutputElement.words_subset (le_refl _)
  have hindex {d : Text} (hd : d ∈ Pattern.digits.language) :
      Text.Outside (Pattern.ofWord "out_FragColor").words
        {"[".toList ++ d ++ "]".toList} := by
    have houtside : Shape.outside (Pattern.ofWord "out_FragColor").shapes
        (Shape.joined (Shape.joined [.ofWord "[".toList] Pattern.digits.shapes)
          [.ofWord "]".toList]) = true := by cbv
    refine (Shape.outside_words houtside).mono (Pattern.ofWord "out_FragColor").words_subset ?_
    rw [Set.singleton_subset_iff]
    exact Shape.append_mem_words (Shape.append_mem_words (by simp) (Expr.language_subset _ hd))
      (by simp)
  have key {s t : Text} (h : Pattern.singleOutputElement.Rewrites
      (fun m ↦ "gl_FragColor[".toList ++ m.group 1 ++ "]".toList) s t)
      (ht : ¬ "out_FragColor".toList <:+: t) :
      (Pattern.ofWord "out_FragColor").Rewrites (fun _ ↦ "gl_FragColor".toList) s t := by
    induction h with
    | done => exact .done
    | @keep c b b' hc h ih =>
      refine .keep (fun w hw hpre ↦ ?_) (ih fun hin ↦ ht (List.infix_cons hin))
      rw [hwords, Set.mem_singleton_iff] at hw
      subst hw
      -- the whole word would have been kept
      obtain ⟨v, hv⟩ := hpre
      obtain ⟨rfl, hb⟩ := List.cons.inj hv
      rw [← hb] at h
      obtain ⟨b'', rfl, -⟩ := h.exists_append htail
      exact ht ⟨[], b'', rfl⟩
    | @found m b b' hm h ih =>
      obtain ⟨hdigits, htext⟩ := Pattern.spells_singleOutputElement hm
      have hrest := (ih fun hin ↦ ht (hin.trans (List.suffix_append _ b').isInfix)).append_left
        (hindex hdigits)
      obtain ⟨g, hword⟩ := hwords.ge (Set.mem_singleton "out_FragColor".toList)
      have hfound : (Pattern.ofWord "out_FragColor").Rewrites (fun _ ↦ "gl_FragColor".toList)
          ("out_FragColor".toList ++ ("[".toList ++ m.group 1 ++ "]".toList ++ b))
          ("gl_FragColor".toList ++ ("[".toList ++ m.group 1 ++ "]".toList ++ b')) :=
        .found (m := ⟨"out_FragColor".toList, g⟩) hword hrest
      rw [htext]
      simpa using hfound
  refine Pattern.Rewrites.eq_of_expr_eq_word (p := .ofWord "out_FragColor") rfl (by decide)
    (key (replaces_singleElementRename.rewrites t) ?_) (replaces_singleRename.rewrites t)
  rw [← Text.includes_iff, h]
  exact Bool.false_ne_true

/-- A weight that counts equals signs, the fewer the heavier. -/
def equalsSigns (c : Char) : ℤ := if c = '=' then -1 else 0

theorem weight_depthOutput (t : Text) :
    weight equalsSigns (depthOutput.output .fragment t) = weight equalsSigns t := by
  have hword : weight equalsSigns "gl_FragDepthEXT".toList =
      weight equalsSigns "gl_FragDepth".toList := by decide
  have hline : weight equalsSigns (fragDepthDirective.toList ++ directiveSeparator) = 0 := by decide
  rw [depthOutput_output]
  split
  · calc weight equalsSigns (depthRename.output .fragment (prependDirective fragDepthDirective t))
        = weight equalsSigns (prependDirective fragDepthDirective t) := by
          refine (replaces_depthRename.rewrites _).weight_eq fun m hm ↦ ?_
          rw [Pattern.text_eq_of_expr_eq_word rfl hm, hword]
      _ = weight equalsSigns t := by
          rw [prependDirective, Text.weight_append, hline, zero_add]
  · rfl

/-- If a declaration of the single output is deleted, then the text is not what renaming the output
would have led to: an equals sign is missing. -/
theorem singleLayoutRemoval_ne (h : Pattern.singleLayout.occursIn
      (singleElementRename.output .fragment t) = true) :
    depthOutput.output .fragment (singleLayoutRemoval.output .fragment
        (singleElementRename.output .fragment t)) ≠
      depthOutput.output .fragment (singleRename.output .fragment t) := by
  have hrename : weight equalsSigns (singleRename.output .fragment t) = weight equalsSigns t := by
    refine (replaces_singleRename.rewrites t).weight_eq fun m hm ↦ ?_
    rw [Pattern.text_eq_of_expr_eq_word rfl hm]
    decide
  have helement : weight equalsSigns (singleElementRename.output .fragment t) =
      weight equalsSigns t := by
    refine (replaces_singleElementRename.rewrites t).weight_eq fun m hm ↦ ?_
    obtain ⟨-, htext⟩ := Pattern.spells_singleOutputElement hm
    have hword : weight equalsSigns "gl_FragColor[".toList =
        weight equalsSigns "out_FragColor[".toList := by decide
    rw [htext, Text.weight_append, Text.weight_append, Text.weight_append, Text.weight_append,
      hword]
  have hlayout : weight equalsSigns (singleElementRename.output .fragment t) <
      weight equalsSigns (singleLayoutRemoval.output .fragment
        (singleElementRename.output .fragment t)) := by
    rw [Pattern.occursIn_iff_occurs (by rfl)] at h
    refine (replaces_singleLayoutRemoval.rewrites _).weight_lt (fun m hm ↦ ?_) h
      (Pattern.nil_notMem_words (by rfl))
    rw [Pattern.text_eq_of_expr_eq_word rfl hm]
    decide
  intro heq
  have hweight := congrArg (weight equalsSigns) heq
  rw [weight_depthOutput, weight_depthOutput, hrename, ← helement] at hweight
  exact hlayout.ne' hweight

/-! ## A chain without one of its rules -/

theorem text_plainRun_succ {rules : List Rule} (h : ∀ r ∈ rules, r.Applicable stage) {n : ℕ}
    {r : Rule} (hr : rules[n]? = some r) : (Rule.plainRun rules stage source (n + 1)).text =
      r.output stage (Rule.plainRun rules stage source n).text := by
  have hrmem : r ∈ rules := List.mem_of_getElem? hr
  rw [Rule.plainRun, List.take_add_one, hr, Option.toList_some,
    Rule.text_applyAll_append fun q hq ↦ h q (List.mem_of_mem_take hq),
    Rule.text_applyAll_cons (h r hrmem), Rule.text_applyAll_nil, Rule.plainRun]

/-- What a strict run without one of the rules may come to, in terms of the text that the rule would
have been given. -/
theorem run_eraseIdx {i : ℕ} (hi : i < standard.length) (stage : Stage) (source : Text) :
    let given := (Rule.plainRun standard stage source i).text
    let rest := standard.drop (i + 1)
    (∃ step violations, Conversion.run (standard.eraseIdx i) true stage source =
        .error (.violated step violations)) ∨
      ∃ c, Conversion.run (standard.eraseIdx i) true stage source = .ok c ∧
        c.output = (Rule.applyAll rest stage "" given).text ∧ Clean stage c.output ∧
        downgrade stage source =
          (Rule.applyAll rest stage "" (standard[i].output stage given)).text := by
  intro given rest
  have hbefore : ∀ r ∈ standard.take i, r.Applicable stage :=
    fun r hr ↦ applicable_standard r (List.mem_of_mem_take hr)
  have herase : ∀ r ∈ standard.eraseIdx i, r.Applicable stage :=
    fun r hr ↦ applicable_standard r (List.mem_of_mem_eraseIdx hr)
  have hdropped : (Rule.applyAll (standard.eraseIdx i) stage "" source).text =
      (Rule.applyAll rest stage "" given).text := by
    rw [List.eraseIdx_eq_take_drop_succ, Rule.text_applyAll_append hbefore]
    rfl
  have hwhole : downgrade stage source =
      (Rule.applyAll rest stage "" (standard[i].output stage given)).text := by
    have hsplit : standard = standard.take i ++ standard[i] :: rest := by
      rw [← List.drop_eq_getElem_cons hi, List.take_append_drop]
    rw [downgrade]
    nth_rewrite 1 [hsplit]
    rw [Rule.text_applyAll_append hbefore,
      Rule.text_applyAll_cons (applicable_standard _ (List.getElem_mem hi))]
    rfl
  rcases Conversion.run_strict_eq_violated_or_ok herase source with hviolated |
    ⟨c, hrun, houtput, hcheck⟩
  · exact .inl hviolated
  · exact .inr ⟨c, hrun, houtput.trans hdropped, clean_of_check_eq_nil hcheck, hwhole⟩

/-- If the rule would not have taken effect, then leaving it out makes no difference. -/
theorem output_eq_of_takesEffect_eq_false {i : ℕ} (hi : i < standard.length) {output : Text}
    (houtput : output = (Rule.applyAll (standard.drop (i + 1)) stage ""
      (Rule.plainRun standard stage source i).text).text)
    (hwhole : downgrade stage source = (Rule.applyAll (standard.drop (i + 1)) stage ""
      (standard[i].output stage (Rule.plainRun standard stage source i).text)).text)
    (h : standard[i].takesEffect stage (Rule.plainRun standard stage source i).text = false) :
    output = downgrade stage source := by
  rw [hwhole, houtput, (raises_standard _ (List.getElem_mem hi)).output_eq _ h]

/-- The two rules behind the renaming of the single output never find anything in the chain. -/
theorem takesEffect_behind_single (stage : Stage) (source : Text) :
    singleElementRename.takesEffect stage (Rule.plainRun standard stage source 8).text = false ∧
      singleLayoutRemoval.takesEffect stage (Rule.plainRun standard stage source 9).text =
        false := by
  cases stage with
  | vertex => exact ⟨Rule.takesEffect_of_not_admits rfl, Rule.takesEffect_of_not_admits rfl⟩
  | fragment =>
    have hsingle : (Rule.plainRun standard .fragment source 8).text =
        singleRename.output .fragment (Rule.plainRun standard .fragment source 7).text :=
      text_plainRun_succ applicable_standard rfl
    have helement : (Rule.plainRun standard .fragment source 9).text =
        singleElementRename.output .fragment (Rule.plainRun standard .fragment source 8).text :=
      text_plainRun_succ applicable_standard rfl
    have habsent : Text.includes (Rule.plainRun standard .fragment source 8).text
        "out_FragColor".toList = false := by
      rw [hsingle]
      exact includes_singleRename _
    have hfirst := (output_of_not_includes habsent).1
    have hsecond := (output_of_not_includes habsent).2
    rw [helement, hfirst]
    -- a rule that takes effect changes the text, and these two do not
    exact ⟨liftsFragment_gain.raises_singleElementRename.output_eq_iff.1 hfirst,
      liftsFragment_gain.raises_singleLayoutRemoval.output_eq_iff.1 hsecond⟩

/-- Without the renaming of the single output, what is left is right if it passes the checks and no
declaration has been deleted. -/
theorem output_eq_iff_single (h : Text.includes
      (depthOutput.output .fragment (singleLayoutRemoval.output .fragment
        (singleElementRename.output .fragment t))) "out_FragColor".toList = false) :
    depthOutput.output .fragment (singleLayoutRemoval.output .fragment
        (singleElementRename.output .fragment t)) =
        depthOutput.output .fragment (singleRename.output .fragment t) ↔
      ¬ singleLayoutRemoval.takesEffect .fragment (singleElementRename.output .fragment t) =
        true := by
  have htakes : singleLayoutRemoval.takesEffect .fragment (singleElementRename.output .fragment t) =
      Pattern.singleLayout.occursIn (singleElementRename.output .fragment t) :=
    Rule.takesEffect_of_admits rfl
  cases hlayout : Pattern.singleLayout.occursIn (singleElementRename.output .fragment t) with
  | true =>
    rw [htakes, hlayout]
    exact iff_of_false (singleLayoutRemoval_ne hlayout) (not_not_intro rfl)
  | false =>
    have hidle := liftsFragment_gain.raises_singleLayoutRemoval.output_eq _ (htakes.trans hlayout)
    have hapart : Text.Apart {"out_FragColor".toList}
        (Shape.words ([.depth].flatMap Exchange.taken)) := by
      rw [← Shape.words_ofWord]
      exact Shape.apart_words (by cbv)
    -- the depth group would have kept a single output
    have hrenamed : Text.includes (singleElementRename.output .fragment t)
        "out_FragColor".toList = false := by
      rw [hidle, ← Bool.not_eq_true, ← Text.occurs_singleton] at h
      rw [← Bool.not_eq_true, ← Text.occurs_singleton]
      exact fun hin ↦ h (occurs_depthOutput hapart hin)
    rw [hidle, singleElementRename_eq_singleRename hrenamed,
      ← singleElementRename_eq_singleRename hrenamed, htakes, hlayout]
    exact iff_of_true rfl Bool.false_ne_true

/-- What is left without the renaming of the single output, from the text that it would have been
given. -/
theorem text_drop_eight (t : Text) : (Rule.applyAll (standard.drop 8) .fragment "" t).text =
    depthOutput.output .fragment (singleLayoutRemoval.output .fragment
      (singleElementRename.output .fragment t)) := by
  change (Rule.applyAll [singleElementRename, singleLayoutRemoval, depthOutput] .fragment "" t).text
    = _
  rw [Rule.text_applyAll_cons replaces_singleElementRename.applicable,
    Rule.text_applyAll_cons replaces_singleLayoutRemoval.applicable,
    Rule.text_applyAll_cons applicable_depthOutput, Rule.text_applyAll_nil]

theorem output_eq_iff_without_single
    (h : Clean stage (Rule.applyAll (standard.drop 8) stage "" t).text) :
    (Rule.applyAll (standard.drop 8) stage "" t).text =
        (Rule.applyAll (standard.drop 8) stage "" (singleRename.output stage t)).text ↔
      ¬ singleLayoutRemoval.takesEffect stage (singleElementRename.output stage t) = true := by
  match stage with
  | .vertex =>
    rw [(Rule.idle_of_not_admits rfl).1, Rule.takesEffect_of_not_admits rfl]
    exact iff_of_true rfl Bool.false_ne_true
  | .fragment =>
    obtain ⟨helement, hlayout⟩ := output_of_not_includes (includes_singleRename t)
    have hsingle := h.single rfl
    rw [text_drop_eight] at hsingle
    rw [text_drop_eight, text_drop_eight, helement, hlayout]
    exact output_eq_iff_single hsingle

theorem text_drop_six_vertex (t : Text) :
    (Rule.applyAll (standard.drop 6) .vertex "" t).text = t := by
  change (Rule.applyAll [indexedOutputs, singleRename, singleElementRename, singleLayoutRemoval,
    depthOutput] .vertex "" t).text = t
  rw [Rule.text_applyAll_cons_of_not_admits rfl, Rule.text_applyAll_cons_of_not_admits rfl,
    Rule.text_applyAll_cons_of_not_admits rfl, Rule.text_applyAll_cons_of_not_admits rfl,
    Rule.text_applyAll_cons_of_not_admits rfl, Rule.text_applyAll_nil]

/-- Without the rule for the outputs of vertex shaders, they are left as they are. -/
theorem output_eq_iff_without_vertexOutput (stage : Stage) (t : Text) :
    (Rule.applyAll (standard.drop 6) stage "" t).text =
        (Rule.applyAll (standard.drop 6) stage "" (vertexOutput.output stage t)).text ↔
      ¬ vertexOutput.takesEffect stage t = true := by
  have hraises : vertexOutput.Raises gain stage :=
    raises_standard _ (List.mem_of_getElem? (i := 5) rfl)
  match stage with
  | .vertex =>
    rw [text_drop_six_vertex, text_drop_six_vertex, eq_comm, hraises.output_eq_iff,
      Bool.not_eq_true]
  | .fragment =>
    rw [(Rule.idle_of_not_admits rfl).1, Rule.takesEffect_of_not_admits rfl]
    exact iff_of_true rfl Bool.false_ne_true

theorem output_eq_iff_without_depth (stage : Stage) (t : Text) :
    t = depthOutput.output stage t ↔
      ¬ (stage = .fragment ∧ Text.includes t "gl_FragDepth".toList = true) := by
  cases stage with
  | vertex =>
    rw [(Rule.idle_of_not_admits rfl).1]
    exact iff_of_true rfl fun h ↦ Stage.noConfusion h.1
  | fragment =>
    rw [eq_comm, liftsFragment_gain.raises_depthOutput.output_eq_iff, takesEffect_depthOutput]
    simp

/-- But for the outputs of vertex shaders, the single output and the depth output, no rule would
have taken effect if the text that is left without it passes the checks. -/
theorem takesEffect_of_clean {i : ℕ} (hi : i < standard.length) (hother : i ∉ [5, 7, 10])
    (h : Clean stage (Rule.applyAll (standard.drop (i + 1)) stage ""
      (Rule.plainRun standard stage source i).text).text) :
    standard[i].takesEffect stage (Rule.plainRun standard stage source i).text = false := by
  have hindex : i = 0 ∨ i = 1 ∨ i = 2 ∨ i = 3 ∨ i = 4 ∨ i = 6 ∨ i = 8 ∨ i = 9 := by
    have : i < 11 := hi
    simp only [List.mem_cons, List.not_mem_nil, or_false, not_or] at hother
    omega
  rcases hindex with rfl | rfl | rfl | rfl | rfl | rfl | rfl | rfl
  · exact takesEffect_versionDowngrade h
  · exact takesEffect_cubeSampling h
  · exact takesEffect_textureCall h
  · exact takesEffect_fragmentInput h
  · exact takesEffect_vertexInput h
  · exact takesEffect_indexedOutputs h
  · exact (takesEffect_behind_single stage source).1
  · exact (takesEffect_behind_single stage source).2

/-- Each rule stands where its name says. -/
theorem name_eq_iff (i : Fin standard.length) :
    (standard[i].name = "VertexOutputQualifier" ↔ i.val = 5) ∧
      (standard[i].name = "FragColorRename" ↔ i.val = 7) ∧
      (standard[i].name = "FragDepthOutput" ↔ i.val = 10) := by
  revert i
  decide

/-- **Leaving a rule out.** A strict run of the chain without one of its rules ends with a violation
or gives a text, which is what the whole chain gives, but for three exceptions: the rule for the
outputs of vertex shaders is left out, and would have found some; the renaming of the single output
is left out, and the deletion of its declarations takes effect; or the depth group is left out, and
the text has the depth output in it. -/
theorem run_without (i : Fin standard.length) (stage : Stage) (source : Text) :
    (∃ step violations, Conversion.run (standard.eraseIdx i) true stage source =
        .error (.violated step violations)) ∨
      ∃ c, Conversion.run (standard.eraseIdx i) true stage source = .ok c ∧
        (c.output = downgrade stage source ↔
          ¬ (standard[i].name = "VertexOutputQualifier" ∧
              standard[i].takesEffect stage (Rule.plainRun standard stage source i).text = true) ∧
            ¬ (standard[i].name = "FragColorRename" ∧ singleLayoutRemoval.takesEffect stage
                (Rule.plainRun (standard.eraseIdx i) stage source 8).text = true) ∧
              ¬ (standard[i].name = "FragDepthOutput" ∧ stage = .fragment ∧
                Text.includes c.output "gl_FragDepth".toList = true)) := by
  obtain ⟨hvertex, hsingle, hdepth⟩ := name_eq_iff i
  rw [hvertex, hsingle, hdepth]
  obtain ⟨n, hn⟩ := i
  rcases run_eraseIdx hn stage source with hviolated | ⟨c, hrun, houtput, hclean, hwhole⟩
  · exact .inl hviolated
  refine .inr ⟨c, hrun, ?_⟩
  have hrest := houtput ▸ hclean
  dsimp only
  by_cases hfive : n = 5
  · subst hfive
    have hiff : c.output = downgrade stage source ↔ ¬ standard[5].takesEffect stage
        (Rule.plainRun standard stage source 5).text = true := by
      rw [houtput, hwhole]
      exact output_eq_iff_without_vertexOutput stage _
    rw [hiff]
    simp
  by_cases hseven : n = 7
  · subst hseven
    have hgiven : (Rule.plainRun (standard.eraseIdx 7) stage source 8).text =
        singleElementRename.output stage (Rule.plainRun standard stage source 7).text :=
      text_plainRun_succ (fun r hr ↦ applicable_standard r (List.mem_of_mem_eraseIdx hr)) rfl
    have hiff : c.output = downgrade stage source ↔ ¬ singleLayoutRemoval.takesEffect stage
        (Rule.plainRun (standard.eraseIdx 7) stage source 8).text = true := by
      rw [hgiven, houtput, hwhole]
      exact output_eq_iff_without_single hrest
    rw [hiff]
    simp
  by_cases hten : n = 10
  · subst hten
    have hlast : c.output = (Rule.plainRun standard stage source 10).text :=
      houtput.trans Rule.text_applyAll_nil
    have hend : downgrade stage source =
        depthOutput.output stage (Rule.plainRun standard stage source 10).text :=
      hwhole.trans Rule.text_applyAll_nil
    rw [hend, hlast, output_eq_iff_without_depth stage]
    simp
  · have hunnoticed := takesEffect_of_clean hn (by simp [hfive, hseven, hten]) hrest
    have hsame := output_eq_of_takesEffect_eq_false hn houtput hwhole hunnoticed
    exact iff_of_true hsame
      ⟨fun hex ↦ hfive hex.1, fun hex ↦ hseven hex.1, fun hex ↦ hten hex.1⟩

/-- Three texts that a strict run lets pass although a rule is missing: an output of a vertex
shader, which is left as it is; a declaration of the single output, which is deleted and not
renamed; and a depth output that has the suffix from the start. -/
theorem run_without_unnoticed :
    (Conversion.run (standard.eraseIdx 5) true .vertex
          "out vec4 v_color;".toList).toOption.map Conversion.output =
        some "out vec4 v_color;".toList ∧
      downgrade .vertex "out vec4 v_color;".toList = "varying vec4 v_color;".toList ∧
      (Conversion.run (standard.eraseIdx 7) true .fragment
          "layout (location = 0) vec4 out_FragColor;".toList).toOption.map Conversion.output =
        some ";".toList ∧
      downgrade .fragment "layout (location = 0) vec4 out_FragColor;".toList =
        "layout (location = 0) vec4 gl_FragColor;".toList ∧
      (Conversion.run (standard.eraseIdx 10) true .fragment
          "gl_FragDepthEXT = 1.0;".toList).toOption.map Conversion.output =
        some "gl_FragDepthEXT = 1.0;".toList ∧
      downgrade .fragment "gl_FragDepthEXT = 1.0;".toList =
        "#extension GL_EXT_frag_depth : enable\n gl_FragDepthEXTEXT = 1.0;".toList := by
  decide +kernel

end Chain

end ShaderDowngrade

import ShaderDowngrade.Proofs.Chain.Directives
import ShaderDowngrade.Proofs.Pattern.Extension
import ShaderDowngrade.Proofs.Pattern.Locality
import ShaderDowngrade.Proofs.Rule.Literal
import ShaderDowngrade.Proofs.Rule.Skipped

/-!
# Rules that are never reached

The single output is renamed before the rules for its elements and for its layout declaration run,
so these two never find anything, whatever the cube sampler is called. The chain does the same
without them, but for what they record; and every layout declaration of the single output stays in
the text, with the output renamed.

Main statements: `Chain.skipped_unreached`, the two rules are skipped; `Chain.renames_layouts`, what
becomes of the declarations; `Chain.unreached_forSampler`, what this means for conversions.

## What stands around a declaration

Neither of the two names that are renamed behind a declaration overlaps with the words in front of
its name. So a declaration separates the text on its two sides, and what the remaining rules make
of a side is what they would make of it alone. The directive for the depth output is then put in
front of everything.
-/

namespace ShaderDowngrade

open Executed (heading)

/-! ## The rules behind the renaming of the single output -/

namespace Chain

variable {stage : Stage} {source t : Text} {cubeSampler : String}

/-- The rules up to the renaming of the single output. -/
def upToSingle (cubeSampler : String) : List Rule :=
  earlyFor cubeSampler ++
    [fragmentInput, vertexInput, vertexOutput, indexedOutputs, singleRename]

/-- The rules that are never reached. -/
def unreached : List Rule := [singleElementRename, singleLayoutRemoval]

/-- Their names. -/
def unreachedNames : List CodeString := ["FragColorIndexedRename", "FragColorLayoutRemoval"]

theorem forSampler_eq_upToSingle (cubeSampler : String) :
    forSampler cubeSampler = upToSingle cubeSampler ++ unreached ++ [depthOutput] := rfl

theorem mem_unreachedNames {name : String} : (name : CodeString) ∈ unreachedNames ↔
    name = "FragColorIndexedRename" ∨ name = "FragColorLayoutRemoval" := by
  simp [unreachedNames, CodeString.ofString_inj]

theorem filter_name_forSampler (cubeSampler : String) :
    (forSampler cubeSampler).filter (fun r ↦ (r.name : CodeString) ∉ unreachedNames) =
      upToSingle cubeSampler ++ [depthOutput] := by
  simp only [mem_unreachedNames]
  rfl

theorem fault_upToSingle :
    (Rule.applyAll (upToSingle cubeSampler) stage "" source).fault = none := by
  refine Rule.fault_applyAll fun r hr ↦ ?_
  rcases List.mem_append.1 hr with hr | hr
  · exact applicable_of_mem_earlyFor r hr
  · refine applicable_of_mem_late r ?_
    simp only [late, List.mem_cons] at hr ⊢
    tauto

/-- The text that the renaming of the single output is given. -/
def handedToSingle (cubeSampler : String) (source : Text) : Text :=
  (Rule.applyAll ((forSampler cubeSampler).takeWhile (·.name ≠ "FragColorRename"))
    .fragment "" source).text

theorem handedToSingle_eq (cubeSampler : String) (source : Text) :
    handedToSingle cubeSampler source = indexedOutputs.output .fragment
      (fragmentInput.output .fragment (renamedFor cubeSampler .fragment source)) := by
  have hrules : (forSampler cubeSampler).takeWhile (·.name ≠ "FragColorRename") =
      earlyFor cubeSampler ++ [fragmentInput, vertexInput, vertexOutput, indexedOutputs] := by rfl
  rw [handedToSingle, hrules, Rule.text_applyAll_append applicable_of_mem_earlyFor, ← renamedFor,
    text_applyAll_fragmentInput, Rule.text_applyAll_cons applicable_indexedOutputs,
    Rule.text_applyAll_nil]

theorem singledFrom_eq (cubeSampler : String) (source : Text) :
    singledFrom (renamedFor cubeSampler .fragment source) =
      singleRename.output .fragment (handedToSingle cubeSampler source) := by
  rw [handedToSingle_eq, singledFrom]

theorem text_upToSingle (cubeSampler : String) (source : Text) :
    (Rule.applyAll (upToSingle cubeSampler) .fragment "" source).text =
      singledFrom (renamedFor cubeSampler .fragment source) := by
  rw [upToSingle, Rule.text_applyAll_append applicable_of_mem_earlyFor, ← renamedFor,
    text_applyAll_fragmentInput, Rule.text_applyAll_cons applicable_indexedOutputs,
    Rule.text_applyAll_cons replaces_singleRename.applicable, Rule.text_applyAll_nil, singledFrom]

/-- Why the rules are skipped. -/
def skipOfUnreached : Stage → Skip
  | .fragment => .noMatch
  | .vertex => .stageMismatch

theorem skipped_singleElementRename (h : ¬ Text.Occurs Pattern.singleOutputElement.words t) :
    singleElementRename.Skipped .fragment t .noMatch := by
  have hread : Template.read Pattern.singleOutputElement.expr.groupCount
      "gl_FragColor[\\g<1>]".toList = .ok ("gl_FragColor[".toList.map .char ++ [.group 1] ++
        "]".toList.map .char) := by rfl
  exact Rule.skipped_of_not_occurs ⟨hread, by rfl, Pattern.nil_notMem_words (by rfl)⟩ rfl h

theorem skipped_singleLayoutRemoval (h : ¬ Text.Occurs Pattern.singleLayout.words t) :
    singleLayoutRemoval.Skipped .fragment t .noMatch := by
  have hread : Template.read Pattern.singleLayout.expr.groupCount "".toList = .ok [] := by rfl
  exact Rule.skipped_of_not_occurs ⟨hread, by rfl, Pattern.nil_notMem_words (by rfl)⟩ rfl h

/-- Behind the renaming of the single output, the rules for its elements and its declaration are
skipped. -/
theorem skipped_unreached (cubeSampler : String) (stage : Stage) (source : Text) :
    ∀ r ∈ unreached, r.Skipped stage
      (Rule.applyAll (upToSingle cubeSampler) stage "" source).text (skipOfUnreached stage) := by
  simp only [unreached, List.forall_mem_cons]
  cases stage with
  | vertex => exact ⟨Rule.skipped_of_not_admits rfl, Rule.skipped_of_not_admits rfl, by simp⟩
  | fragment =>
    have hgone : Text.includes (Rule.applyAll (upToSingle cubeSampler) .fragment "" source).text
        "out_FragColor".toList = false := by
      rw [text_upToSingle, singledFrom]
      exact includes_singleRename _
    obtain ⟨helement, hlayout⟩ := not_occurs_of_not_includes hgone
    exact ⟨skipped_singleElementRename helement, skipped_singleLayoutRemoval hlayout, by simp⟩

/-! ## What the rules record -/

/-- No other rule goes by one of the names. -/
theorem rule_notMem_unreachedNames {rs : List Rule}
    (hnames : ∀ name ∈ (Rule.nestedAll rs).map Rule.name, name ≠ "FragColorIndexedRename" ∧
      name ≠ "FragColorLayoutRemoval")
    (hfault : (Rule.applyAll rs stage "" t).fault = none) :
    ∀ e ∈ (Rule.applyAll rs stage "" t).entries, e.rule ∉ unreachedNames := by
  intro e he
  obtain ⟨r, hr, hname⟩ := Rule.exists_rule_of_mem_entries hfault he
  rw [hname, mem_unreachedNames, not_or]
  exact hnames r.name (List.mem_map_of_mem hr)

/-- What the rules that are never reached record. -/
def reportsOfUnreached (stage : Stage) : List Entry :=
  unreached.map fun r ↦ { heading r "" with skip := skipOfUnreached stage }

theorem applyAll_forSampler (cubeSampler : String) (stage : Stage) (source : Text) :
    Rule.applyAll (forSampler cubeSampler) stage "" source =
      { Rule.applyAll (upToSingle cubeSampler ++ [depthOutput]) stage "" source with
        entries := (Rule.applyAll (upToSingle cubeSampler) stage "" source).entries ++
          reportsOfUnreached stage ++ (Rule.applyAll [depthOutput] stage ""
            (Rule.applyAll (upToSingle cubeSampler) stage "" source).text).entries } := by
  rw [forSampler_eq_upToSingle, Rule.applyAll_around_skipped fault_upToSingle
    (skipped_unreached cubeSampler stage source), reportsOfUnreached]

/-- The entries of the two rules can be told from the others by their names. -/
theorem filter_entries_forSampler (cubeSampler : String) (stage : Stage) (source : Text) :
    (Rule.applyAll (forSampler cubeSampler) stage "" source).entries.filter
        (·.rule ∉ unreachedNames) =
      (Rule.applyAll (upToSingle cubeSampler ++ [depthOutput]) stage "" source).entries ∧
    (Rule.applyAll (forSampler cubeSampler) stage "" source).entries.filter
        (·.rule ∈ unreachedNames) = reportsOfUnreached stage := by
  have hbefore : ∀ e ∈ (Rule.applyAll (upToSingle cubeSampler) stage "" source).entries,
      e.rule ∉ unreachedNames := by
    refine rule_notMem_unreachedNames ?_ fault_upToSingle
    change ∀ name ∈ ["VersionDowngrade", "CubeSamplingRename", "TextureCallRename",
      "FragmentInputQualifier", "VertexInputQualifier", "VertexOutputQualifier",
      "DrawBuffersOutputs", "DrawBuffersDirective", "FragDataLayoutRemoval", "FragDataRename",
      "FragColorRename"], _
    decide
  have hbehind : ∀ t, ∀ e ∈ (Rule.applyAll [depthOutput] stage "" t).entries,
      e.rule ∉ unreachedNames := by
    intro t
    refine rule_notMem_unreachedNames (by decide) (Rule.fault_applyAll ?_)
    exact List.forall_mem_singleton.2 applicable_depthOutput
  have hreports : ∀ e ∈ reportsOfUnreached stage, e.rule ∈ unreachedNames := by
    simp only [reportsOfUnreached, unreached, List.map_cons, List.map_nil, List.forall_mem_cons]
    exact ⟨mem_unreachedNames.2 (.inl rfl), mem_unreachedNames.2 (.inr rfl), by simp⟩
  have hother {es : List Entry} (h : ∀ e ∈ es, e.rule ∉ unreachedNames) :
      es.filter (·.rule ∉ unreachedNames) = es ∧ es.filter (·.rule ∈ unreachedNames) = [] :=
    ⟨List.filter_eq_self.2 fun e he ↦ decide_eq_true (h e he),
      List.filter_eq_nil_iff.2 fun e he ↦ by simpa using h e he⟩
  have hown : (reportsOfUnreached stage).filter (·.rule ∉ unreachedNames) = [] ∧
      (reportsOfUnreached stage).filter (·.rule ∈ unreachedNames) = reportsOfUnreached stage :=
    ⟨List.filter_eq_nil_iff.2 fun e he ↦ by simpa using hreports e he,
      List.filter_eq_self.2 fun e he ↦ decide_eq_true (hreports e he)⟩
  rw [applyAll_forSampler, Rule.applyAll_append_of_fault fault_upToSingle]
  dsimp only
  simp only [List.filter_append, (hother hbefore).1, (hother hbefore).2, (hother (hbehind _)).1,
    (hother (hbehind _)).2, hown, List.nil_append, List.append_nil, and_self]

theorem directives_forSampler_eq (cubeSampler : String) (stage : Stage) (source : Text) :
    (Rule.applyAll (forSampler cubeSampler) stage "" source).directives =
      (Rule.applyAll (upToSingle cubeSampler ++ [depthOutput]) stage "" source).directives := by
  have hreports : Ledger.directives { entries := reportsOfUnreached stage } = [] := rfl
  rw [applyAll_forSampler, Rule.applyAll_append_of_fault fault_upToSingle]
  simp only [Run.directives, Ledger.directives_append, hreports, List.nil_append]

/-! ## What stands around a declaration -/

/-- The declaration of the single output. -/
def singleDeclaration : Text := "layout (location = 0) vec4 out_FragColor".toList

/-- The declaration with the output renamed. -/
def renamedDeclaration : Text := "layout (location = 0) vec4 gl_FragColor".toList

/-- What the remaining rules rename in a text. -/
def renamedOutputs (t : Text) : Text :=
  depthRename.output .fragment (singleRename.output .fragment t)

theorem singleRename_declaration (a b : Text) :
    singleRename.output .fragment (a ++ singleDeclaration ++ b) =
      singleRename.output .fragment a ++ renamedDeclaration ++ singleRename.output .fragment b := by
  have hapart : Shape.apart (Pattern.ofWord "out_FragColor").shapes
      [.ofWord "layout (location = 0) vec4 ".toList] = true := by decide +kernel
  have hfront := Pattern.separates_of_apart (by rfl) (Pattern.nil_notMem_words (by rfl)) hapart
    (Shape.words_ofWord _ ▸ Set.mem_singleton _)
  have hname (t : Text) : (Pattern.ofWord "out_FragColor").replaceWith
      (fun _ ↦ "gl_FragColor".toList) ("out_FragColor".toList ++ t) = "gl_FragColor".toList ++
        (Pattern.ofWord "out_FragColor").replaceWith (fun _ ↦ "gl_FragColor".toList) t :=
    Pattern.replaceWith_append_of_eq_some (p := .ofWord "out_FragColor")
      (m := ⟨"out_FragColor".toList, []⟩) (by rfl) (by decide)
      (Pattern.matchAt_literal_append_self t)
  have hsplit : singleDeclaration =
      "layout (location = 0) vec4 ".toList ++ "out_FragColor".toList := by rfl
  have hjoin : renamedDeclaration =
      "layout (location = 0) vec4 ".toList ++ "gl_FragColor".toList := by rfl
  simp only [replaces_singleRename.output_eq]
  rw [hsplit, hjoin, ← List.append_assoc a, List.append_assoc _ _ b, hfront.replaceWith_eq, hname]
  simp only [List.append_assoc]

theorem depthRename_declaration (a b : Text) :
    depthRename.output .fragment (a ++ renamedDeclaration ++ b) =
      depthRename.output .fragment a ++ renamedDeclaration ++ depthRename.output .fragment b := by
  have hapart : Shape.apart (Pattern.ofWord "gl_FragDepth").shapes
      [.ofWord renamedDeclaration] = true := by decide +kernel
  have hseparates := Pattern.separates_of_apart (by rfl) (Pattern.nil_notMem_words (by rfl)) hapart
    (Shape.words_ofWord _ ▸ Set.mem_singleton _)
  simp only [replaces_depthRename.output_eq, hseparates.replaceWith_eq]

theorem renamedOutputs_append (a b : Text) :
    renamedOutputs (a ++ singleDeclaration ++ b) =
      renamedOutputs a ++ renamedDeclaration ++ renamedOutputs b := by
  rw [renamedOutputs, singleRename_declaration, depthRename_declaration, renamedOutputs,
    renamedOutputs]

theorem renamedOutputs_joinWith (parts : List Text) :
    renamedOutputs (Text.joinWith singleDeclaration parts) =
      Text.joinWith renamedDeclaration (parts.map renamedOutputs) := by
  induction parts with
  | nil =>
    have hnil : renamedOutputs [] = [] := by
      rw [renamedOutputs, replaces_singleRename.output_eq, replaces_depthRename.output_eq,
        Pattern.replaceWith_nil (Pattern.nil_notMem_words (by rfl)),
        Pattern.replaceWith_nil (Pattern.nil_notMem_words (by rfl))]
    exact hnil
  | cons part parts ih =>
    by_cases hne : parts = []
    · subst hne
      rfl
    · rw [Text.joinWith_cons hne, renamedOutputs_append, ih, List.map_cons,
        Text.joinWith_cons (mt List.map_eq_nil_iff.1 hne)]

theorem cutAt_singleDeclaration (t : Text) :
    Text.joinWith singleDeclaration (Text.cutAt singleDeclaration t) = t ∧
      (Text.cutAt singleDeclaration t).length = Pattern.singleLayout.count t + 1 := by
  constructor
  · have hsame := (Pattern.rewrites_replaceWith (p := .literal singleDeclaration)
      (Expr.plain_word _) (Pattern.nil_notMem_words_literal (by decide))
      (fun _ ↦ singleDeclaration) t).eq_of_same rfl
    rwa [Pattern.replaceWith_literal] at hsame
  · have hcount : Pattern.singleLayout.count t = Text.countOf singleDeclaration t :=
      Pattern.count_literal singleDeclaration t
    have hpos := List.length_pos_iff.2 (Text.cutAt_ne_nil singleDeclaration t)
    rw [hcount, Text.countOf]
    omega

/-! ## The chain -/

theorem depthOutput_eq_header (t : Text) : depthOutput.output .fragment t =
    headerOf (if Text.includes t "gl_FragDepth".toList = true then
      [(fragDepthDirective : CodeString)] else []) ++ depthRename.output .fragment t := by
  have hline : (Pattern.ofWord "gl_FragDepth").Keeps (directiveLine fragDepthDirective) :=
    keeps_of_mem_soughtLate (by decide +kernel) _ (by decide +kernel)
  have hprepend : prependDirective fragDepthDirective t = directiveLine fragDepthDirective ++ t :=
    rfl
  rw [depthOutput_output]
  split
  · rw [hprepend, replaces_depthRename.output_eq, hline.replaceWith_append, headerOf_singleton,
      replaces_depthRename.output_eq]
  · rename_i hnot
    rw [headerOf_nil, List.nil_append]
    refine ((replaces_depthRename.rewrites t).eq_of_not_occurs ?_).symm
    rwa [Pattern.words_of_expr_eq_word rfl, Text.occurs_singleton]

/-- The directive for the depth output is recorded if the depth group finds one. -/
theorem filter_directives_forSampler (cubeSampler : String) (source : Text) :
    (Rule.applyAll (forSampler cubeSampler) .fragment "" source).directives.filter
        (· = (fragDepthDirective : CodeString)) =
      if Text.includes (singledFrom (renamedFor cubeSampler .fragment source))
        "gl_FragDepth".toList = true then [(fragDepthDirective : CodeString)] else [] := by
  rw [directives_forSampler, directives_late_fragment]
  split <;> split <;> simp [directives_ne]

/-- **Layout declarations of the single output stay.** Each declaration in the text that the
renaming of the single output is given is in the finished text, with the output renamed, between
what the text around it has become. -/
theorem renames_layouts (cubeSampler : String) (source : Text) :
    (Rule.applyAll (forSampler cubeSampler) .fragment "" source).text =
      headerOf ((Rule.applyAll (forSampler cubeSampler) .fragment "" source).directives.filter
        (· = (fragDepthDirective : CodeString))) ++
      Text.joinWith renamedDeclaration ((Text.cutAt singleDeclaration
        (handedToSingle cubeSampler source)).map renamedOutputs) := by
  have htext : (Rule.applyAll (forSampler cubeSampler) .fragment "" source).text =
      depthOutput.output .fragment (singledFrom (renamedFor cubeSampler .fragment source)) := by
    rw [applyAll_forSampler]
    dsimp only
    rw [Rule.applyAll_append_of_fault fault_upToSingle]
    dsimp only
    rw [text_upToSingle, Rule.text_applyAll_cons applicable_depthOutput, Rule.text_applyAll_nil]
  rw [htext, depthOutput_eq_header, filter_directives_forSampler, ← renamedOutputs_joinWith,
    (cutAt_singleDeclaration _).1, singledFrom_eq, renamedOutputs]

/-- **The rules behind the renaming of the single output are never reached**, whatever the cube
sampler is called: their entries say that they were skipped, and without the two rules the chain
gives the same text, the same directives and the same other entries. So in a fragment shader every
layout declaration that is left for the second of them stays, with the output renamed. -/
theorem unreached_forSampler (cubeSampler : String) :
    (∀ stage source, ∃ c b : Conversion,
      Conversion.run (forSampler cubeSampler) false stage source = .ok c ∧
        Conversion.run ((forSampler cubeSampler).filter fun r ↦
          (r.name : CodeString) ∉ unreachedNames) false stage source = .ok b ∧
        b.output = c.output ∧ b.directives = c.directives ∧
        b.ledger.entries = c.ledger.entries.filter (·.rule ∉ unreachedNames) ∧
        (c.ledger.entries.filter (·.rule ∈ unreachedNames)).map
            (fun e ↦ (e.rule, e.fired, e.skip)) =
          unreachedNames.map fun name ↦ (name, false, skipOfUnreached stage)) ∧
      ∀ source, ∃ c : Conversion,
        Conversion.run (forSampler cubeSampler) false .fragment source = .ok c ∧
          Text.joinWith singleDeclaration
            (Text.cutAt singleDeclaration (handedToSingle cubeSampler source)) =
              handedToSingle cubeSampler source ∧
          (Text.cutAt singleDeclaration (handedToSingle cubeSampler source)).length =
            Pattern.singleLayout.count (handedToSingle cubeSampler source) + 1 ∧
          c.output = headerOf (c.directives.filter (· = (fragDepthDirective : CodeString))) ++
            Text.joinWith renamedDeclaration ((Text.cutAt singleDeclaration
              (handedToSingle cubeSampler source)).map renamedOutputs) := by
  constructor
  · intro stage source
    have hfault := fault_forSampler cubeSampler stage source
    have hbare : (Rule.applyAll (upToSingle cubeSampler ++ [depthOutput]) stage "" source).fault =
        none := by
      rw [← hfault, applyAll_forSampler]
    have htext : (Rule.applyAll (upToSingle cubeSampler ++ [depthOutput]) stage "" source).text =
        (Rule.applyAll (forSampler cubeSampler) stage "" source).text := by
      rw [applyAll_forSampler]
    obtain ⟨hother, hown⟩ := filter_entries_forSampler cubeSampler stage source
    rw [filter_name_forSampler]
    refine ⟨_, _, Conversion.run_plain hfault, Conversion.run_plain hbare, htext,
      (directives_forSampler_eq cubeSampler stage source).symm, hother.symm, ?_⟩
    dsimp only
    rw [hown]
    rfl
  · intro source
    obtain ⟨hjoin, hlength⟩ := cutAt_singleDeclaration (handedToSingle cubeSampler source)
    exact ⟨_, Conversion.run_plain (fault_forSampler cubeSampler .fragment source), hjoin, hlength,
      renames_layouts cubeSampler source⟩

end Chain

end ShaderDowngrade

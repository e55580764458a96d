import ShaderDowngrade.Proofs.Chain.Early
import ShaderDowngrade.Proofs.Rule.Effect

/-!
# What the chain reports about change

Every rule of the chain that takes effect changes the text, and no rule undoes what the rules before
it have done. There is one weight of characters that all rules raise, those inside the groups and
those that never find anything included.

Main statements: `Chain.LiftsVertex.raises_late` and `Chain.LiftsFragment.raises_late`, what a
weight must do so that the later rules of a stage raise it; `Chain.run_truthful`, the ledger of a
conversion tells which rules have changed the text, and the conversion has changed the source
exactly if some rule took effect.

## Where the weight comes from

What the rules remove has a `u` (`out`, `layout`), a `3` or a `z`; what they put in its place has a
`y`, a `D` or an `X`. The one replacement that brings a `u` of its own is `attribute`, which brings
a `b` as well, and so do the directives. Types, names and numbers are kept, so they do not matter.
-/

namespace ShaderDowngrade

namespace Chain

open Text (weight)

variable {f : Char → ℤ} {stage : Stage}

/-! ## Weights from tables -/

/-- The weight that a table gives a character, 0 unless the character is in it. -/
def byTable (table : List (Char × ℤ)) (c : Char) : ℤ := (table.lookup c).getD 0

theorem byTable_eq_zero_or_mem (table : List (Char × ℤ)) (c : Char) :
    byTable table c = 0 ∨ (c, byTable table c) ∈ table := by
  rw [byTable]
  cases h : table.lookup c with
  | none => exact .inl rfl
  | some k =>
    obtain ⟨before, after, htable, -⟩ := List.lookup_eq_some_iff.1 h
    rw [htable]
    exact .inr (List.mem_append_right _ List.mem_cons_self)

/-- The characters that the rules look for in any number: the blank ones and the digits. -/
def repeatable (c : Char) : Bool := Blank.isBlank c || Pattern.digit.admits c

/-- If repeatable characters do not weigh anything, then neither do repeated ones. -/
theorem weight_some1_nonpos {items : List ClassItem} {w : Text}
    (hf : ∀ c, repeatable c = true → f c ≤ 0)
    (hitems : ∀ c, (CharTest.oneOf items).admits c = true → repeatable c = true)
    (hw : w ∈ (Expr.some1 items).language) : weight f w ≤ 0 := by
  obtain ⟨g, hw⟩ := hw
  exact Text.weight_nonpos fun c hc ↦ hf c (hitems c ((Expr.spells_rep_one.1 hw).2.2.1 c hc))

theorem weight_blanks_nonpos {w : Text} (hf : ∀ c, repeatable c = true → f c ≤ 0)
    (hw : w ∈ Pattern.blanks.language) : weight f w ≤ 0 :=
  weight_some1_nonpos hf (fun c hc ↦ by
    simp only [CharTest.admits, List.any_cons, List.any_nil, Bool.or_false] at hc
    rw [repeatable, Bool.or_eq_true]
    exact .inl hc) hw

theorem weight_digits_nonpos {w : Text} (hf : ∀ c, repeatable c = true → f c ≤ 0)
    (hw : w ∈ Pattern.digits.language) : weight f w ≤ 0 :=
  weight_some1_nonpos hf (fun c hc ↦ by
    simp only [CharTest.admits, List.any_cons, List.any_nil, Bool.or_false] at hc
    rw [repeatable, Bool.or_eq_true]
    exact .inr hc) hw

/-- A substitution of a word by a heavier one. -/
theorem raises_of_word {r : Substitution} {w v : Text} (hw : r.pattern.expr = .word w)
    (h : (Rule.substitute r).Replaces stage r.pattern fun _ ↦ v)
    (hgate : r.gate.admits stage = true) (hne : w ≠ []) (hlt : weight f w < weight f v) :
    (Rule.substitute r).Raises f stage := by
  refine h.raises hgate (hw ▸ Expr.plain_word w) ?_ fun m hm ↦ ?_
  · rw [Pattern.words_of_expr_eq_word hw]
    exact fun hnil ↦ hne hnil.symm
  · rwa [Pattern.text_eq_of_expr_eq_word hw hm]

/-- A substitution of a numbered word by a heavier one with the same number. -/
theorem raises_of_numbered {r : Substitution} {w v new close : Text}
    (hw : r.pattern.expr = .numbered w v)
    (h : (Rule.substitute r).Replaces stage r.pattern fun m ↦ new ++ m.group 1 ++ close)
    (hgate : r.gate.admits stage = true)
    (hlt : weight f w + weight f v < weight f new + weight f close) :
    (Rule.substitute r).Raises f stage := by
  refine h.raises hgate (hw ▸ Expr.plain_numbered w v)
    (Pattern.nil_notMem_words_of_expr_eq_numbered hw) fun m hm ↦ ?_
  obtain ⟨-, htext⟩ := Expr.spells_numbered (hw ▸ hm)
  rw [htext]
  simp only [Text.weight_append]
  omega

/-- A keyword in the place of `in` that is heavier, in front of a type. -/
theorem weight_input_lt (hf : ∀ c, repeatable c = true → f c ≤ 0) {keyword : Text}
    (hlt : weight f "in".toList < weight f keyword) {m : Match}
    (hm : Pattern.inputDeclaration.expr.Spells m.text m.groups) :
    weight f m.text < weight f (keyword ++ m.group 2) := by
  obtain ⟨b, hb, -, htext⟩ := Pattern.spells_inputDeclaration hm
  have hblanks := weight_blanks_nonpos hf hb
  rw [htext, Text.weight_append, Text.weight_append, Text.weight_append]
  omega

/-! ## The rules of the vertex stage -/

/-- What a weight must do so that the later rules raise it at the vertex stage. -/
structure LiftsVertex (f : Char → ℤ) : Prop where
  repeatable_nonpos : ∀ c, repeatable c = true → f c ≤ 0
  input : weight f "in".toList < weight f "attribute ".toList
  output : weight f "out".toList < weight f "varying ".toList + weight f " ".toList

namespace LiftsVertex

theorem raises_vertexInput (h : LiftsVertex f) : vertexInput.Raises f .vertex :=
  replaces_vertexInput.raises rfl (by rfl) (Pattern.nil_notMem_words (by rfl)) fun _ hm ↦
    weight_input_lt h.repeatable_nonpos h.input hm

theorem raises_vertexOutput (h : LiftsVertex f) : vertexOutput.Raises f .vertex := by
  refine replaces_vertexOutput.raises rfl (by rfl) (Pattern.nil_notMem_words (by rfl)) ?_
  intro m hm
  obtain ⟨b, hb, b', hb', -, -, htext⟩ := Pattern.spells_outputDeclaration hm
  have hblanks := weight_blanks_nonpos h.repeatable_nonpos hb
  have hblanks' := weight_blanks_nonpos h.repeatable_nonpos hb'
  have hword := h.output
  rw [htext]
  simp only [Text.weight_append]
  omega

theorem raises_late (h : LiftsVertex f) : ∀ r ∈ late, r.Raises f .vertex := by
  simp only [late, List.forall_mem_cons]
  exact ⟨Rule.raises_of_not_admits rfl, h.raises_vertexInput, h.raises_vertexOutput,
    Rule.raises_of_not_admits rfl, Rule.raises_of_not_admits rfl, Rule.raises_of_not_admits rfl,
    Rule.raises_of_not_admits rfl, Rule.raises_of_not_admits rfl, by simp⟩

end LiftsVertex

/-! ## The rules of the fragment stage -/

/-- What a weight must do so that the later rules raise it at the fragment stage. -/
structure LiftsFragment (f : Char → ℤ) : Prop where
  repeatable_nonpos : ∀ c, repeatable c = true → f c ≤ 0
  input : weight f "in".toList < weight f "varying ".toList
  drawBuffers : 0 < weight f (drawBuffersDirective.toList ++ directiveSeparator)
  indexedLayout : weight f "layout (location = ".toList + weight f ") vec4 out_FragData_".toList +
    weight f ";".toList < 0
  indexed : weight f "out_FragData_".toList < weight f "gl_FragData[".toList + weight f "]".toList
  single : weight f "out_FragColor".toList < weight f "gl_FragColor".toList
  element : weight f "out_FragColor[".toList < weight f "gl_FragColor[".toList
  singleLayout : weight f "layout (location = 0) vec4 out_FragColor".toList < 0
  depthDirective : 0 < weight f (fragDepthDirective.toList ++ directiveSeparator)
  depth : weight f "gl_FragDepth".toList < weight f "gl_FragDepthEXT".toList

namespace LiftsFragment

theorem raises_fragmentInput (h : LiftsFragment f) : fragmentInput.Raises f .fragment :=
  replaces_fragmentInput.raises rfl (by rfl) (Pattern.nil_notMem_words (by rfl)) fun _ hm ↦
    weight_input_lt h.repeatable_nonpos h.input hm

theorem raises_indexedLayoutRemoval (h : LiftsFragment f) :
    indexedLayoutRemoval.Raises f .fragment := by
  refine replaces_indexedLayoutRemoval.raises rfl (by rfl) (Pattern.nil_notMem_words (by rfl)) ?_
  intro m hm
  obtain ⟨d, hd, d', hd', htext⟩ := Pattern.mem_words_indexedLayout.1 ⟨_, hm⟩
  have hlocation := weight_digits_nonpos h.repeatable_nonpos hd
  have hnumber := weight_digits_nonpos h.repeatable_nonpos hd'
  have hwords := h.indexedLayout
  rw [htext]
  simp only [Text.weight_append, Text.weight_nil]
  omega

theorem raises_indexedRename (h : LiftsFragment f) : indexedRename.Raises f .fragment := by
  refine raises_of_numbered Pattern.expr_indexedOutput replaces_indexedRename rfl ?_
  rw [Text.weight_nil, Int.add_zero]
  exact h.indexed

theorem raises_indexedOutputs (h : LiftsFragment f) : indexedOutputs.Raises f .fragment := by
  refine Rule.raises_group rfl rfl ?_
  simp only [List.forall_mem_cons]
  exact ⟨Rule.raises_prepend rfl h.drawBuffers, h.raises_indexedLayoutRemoval,
    h.raises_indexedRename, by simp⟩

theorem raises_singleRename (h : LiftsFragment f) : singleRename.Raises f .fragment :=
  raises_of_word rfl replaces_singleRename rfl (by decide) h.single

theorem raises_singleElementRename (h : LiftsFragment f) :
    singleElementRename.Raises f .fragment :=
  raises_of_numbered Pattern.expr_singleOutputElement replaces_singleElementRename rfl
    (Int.add_lt_add_right h.element _)

theorem raises_singleLayoutRemoval (h : LiftsFragment f) :
    singleLayoutRemoval.Raises f .fragment :=
  raises_of_word rfl replaces_singleLayoutRemoval rfl (by decide) h.singleLayout

theorem raises_depthOutput (h : LiftsFragment f) : depthOutput.Raises f .fragment := by
  refine Rule.raises_group rfl rfl ?_
  simp only [List.forall_mem_cons]
  exact ⟨Rule.raises_prepend rfl h.depthDirective,
    raises_of_word rfl replaces_depthRename rfl (by decide) h.depth, by simp⟩

theorem raises_late (h : LiftsFragment f) : ∀ r ∈ late, r.Raises f .fragment := by
  simp only [late, List.forall_mem_cons]
  exact ⟨h.raises_fragmentInput, Rule.raises_of_not_admits rfl, Rule.raises_of_not_admits rfl,
    h.raises_indexedOutputs, h.raises_singleRename, h.raises_singleElementRename,
    h.raises_singleLayoutRemoval, h.raises_depthOutput, by simp⟩

end LiftsFragment

/-! ## One weight for the whole chain -/

/-- The characters that weigh anything. -/
def gains : List (Char × ℤ) :=
  [('b', 3), ('u', -2), ('y', 1), ('D', 1), ('X', 1), ('3', -1), ('z', -1)]

/-- A weight of characters that all rules of the chain agree with. -/
def gain (c : Char) : ℤ := (gains.lookup c).getD 0

theorem gain_nonpos_of_repeatable (c : Char) (hc : repeatable c = true) : gain c ≤ 0 := by
  have hgains : ∀ x ∈ gains, repeatable x.1 = true → x.2 ≤ 0 := by decide
  rcases byTable_eq_zero_or_mem gains c with hzero | hmem
  · exact hzero.le
  · exact hgains _ hmem hc

theorem liftsVertex_gain : LiftsVertex gain := by
  constructor
  case repeatable_nonpos => exact gain_nonpos_of_repeatable
  all_goals decide

theorem liftsFragment_gain : LiftsFragment gain := by
  constructor
  case repeatable_nonpos => exact gain_nonpos_of_repeatable
  all_goals decide

theorem raises_standard : ∀ r ∈ standard, r.Raises gain stage := by
  rw [standard_eq, List.forall_mem_append]
  constructor
  · simp only [early, List.forall_mem_cons]
    exact ⟨raises_of_word rfl replaces_versionDowngrade rfl (by decide) (by decide),
      raises_of_word rfl replaces_cubeSampling rfl (by decide) (by decide),
      raises_of_word rfl replaces_textureCall rfl (by decide) (by decide), by simp⟩
  · cases stage with
    | vertex => exact liftsVertex_gain.raises_late
    | fragment => exact liftsFragment_gain.raises_late

theorem applicable_standard : ∀ r ∈ standard, r.Applicable stage :=
  fun r hr ↦ (raises_standard r hr).applicable

/-- **What the chain reports about change is true.** The entry of each rule of the chain says that
the rule took effect exactly if the text that it left differs from the text that it was given, and
the conversion has changed the source exactly if some rule took effect: what the rules do never
cancels out. -/
theorem run_truthful (stage : Stage) (source : Text) :
    ∃ c, Conversion.run standard false stage source = .ok c ∧
      (∀ i r, standard[i]? = some r → ∃ e : Entry,
        (c.ledger.entries.filter (·.group = ("" : CodeString)))[i]? = some e ∧
          e.rule = (r.name : CodeString) ∧
          (e.fired = true ↔ r.output stage (Rule.plainRun standard stage source i).text ≠
            (Rule.plainRun standard stage source i).text)) ∧
      (c.changed = true ↔ c.firedRules ≠ []) :=
  Conversion.exists_truthful (by decide) (fun _ hr ↦ raises_standard _ hr) source

end Chain

end ShaderDowngrade

import ShaderDowngrade.Finished
import ShaderDowngrade.Proofs.Pattern.Numbered
import ShaderDowngrade.Proofs.Rule.Output

/-!
# The steps of the chain

For each rule of the chain: that it can be applied to every text, which matches it replaces, and
what it puts in their place. The rules for words replace one word by another; the rules for
declarations keep the type, and the name, that they find.

Main statements: one `replaces_…` for each substitution; `indexedOutputs_output` and
`depthOutput_output`, the texts that the two groups leave.

## What is computed

The template of a rule is read whenever the rule is applied, so applying it might fail. That none of
these rules fails depends on its template alone and is settled by evaluation, once for all texts. So
is that the patterns are plain and never match the empty text, by which the matches do not depend on
where in a text they stand.
-/

namespace ShaderDowngrade

theorem Pattern.nil_notMem_words {p : Pattern} (h : p.shapes.all (!·.isEmpty) = true) :
    [] ∉ p.words := by
  intro hnil
  obtain ⟨s, hs, hfits⟩ := p.words_subset hnil
  cases hfits
  cases List.all_eq_true.1 h [] hs

namespace Substitution

variable {r : Substitution} {stage : Stage}

theorem replaces_of_template (template : Template) {replacement : Match → Text}
    (hread : Template.read r.pattern.expr.groupCount r.replacement.toList = .ok template)
    (hplain : r.pattern.expr.Plain = true) (hshapes : r.pattern.shapes.all (!·.isEmpty) = true)
    (hgate : r.gate.admits stage = true) (hexpand : ∀ m, template.expand m = replacement m) :
    (Rule.substitute r).Replaces stage r.pattern replacement := by
  have h : r.Regular template := ⟨hread, hplain, Pattern.nil_notMem_words hshapes⟩
  exact funext hexpand ▸ h.replaces hgate

/-- A substitution of a word replaces all matches by it. -/
theorem replaces_of_word (w : Text)
    (hread : Template.read r.pattern.expr.groupCount r.replacement.toList = .ok (w.map .char))
    (hplain : r.pattern.expr.Plain = true) (hshapes : r.pattern.shapes.all (!·.isEmpty) = true)
    (hgate : r.gate.admits stage = true) :
    (Rule.substitute r).Replaces stage r.pattern fun _ ↦ w :=
  replaces_of_template _ hread hplain hshapes hgate (Template.expand_map_char w)

end Substitution

/-! ## The substitutions of the chain -/

namespace Chain

open Substitution (replaces_of_word replaces_of_template)

variable {stage : Stage}

theorem replaces_versionDowngrade : versionDowngrade.Replaces stage
    (.literal "version 300 es".toList) fun _ ↦ "version 100".toList :=
  replaces_of_word _ (by rfl) (by rfl) (by rfl) rfl

theorem replaces_cubeSampling : (cubeSampling defaultCubeSampler).Replaces stage
    (.literal defaultCubeSampler.toList) fun _ ↦ "textureCube".toList :=
  replaces_of_word _ (by rfl) (by rfl) (by rfl) rfl

theorem replaces_textureCall : textureCall.Replaces stage .textureCall
    fun _ ↦ "texture2D(".toList :=
  replaces_of_word _ (by rfl) (by rfl) (by rfl) rfl

theorem replaces_fragmentInput : fragmentInput.Replaces .fragment .inputDeclaration
    fun m ↦ "varying ".toList ++ m.group 2 :=
  replaces_of_template ("varying ".toList.map .char ++ [.group 2]) (by rfl) (by rfl) (by rfl) rfl
    fun m ↦ by rw [Template.expand_append, Template.expand_map_char, Template.expand_group]

theorem replaces_vertexInput : vertexInput.Replaces .vertex .inputDeclaration
    fun m ↦ "attribute ".toList ++ m.group 2 :=
  replaces_of_template ("attribute ".toList.map .char ++ [.group 2]) (by rfl) (by rfl) (by rfl) rfl
    fun m ↦ by rw [Template.expand_append, Template.expand_map_char, Template.expand_group]

theorem replaces_vertexOutput : vertexOutput.Replaces .vertex .outputDeclaration
    fun m ↦ "varying ".toList ++ m.group 2 ++ " ".toList ++ m.group 3 ++ ";".toList :=
  replaces_of_template ("varying ".toList.map .char ++ [.group 2] ++ " ".toList.map .char ++
      [.group 3] ++ ";".toList.map .char) (by rfl) (by rfl) (by rfl) rfl
    fun m ↦ by simp only [Template.expand_append, Template.expand_map_char, Template.expand_group]

theorem replaces_indexedLayoutRemoval : indexedLayoutRemoval.Replaces stage .indexedLayout
    fun _ ↦ [] :=
  replaces_of_word _ (by rfl) (by rfl) (by rfl) rfl

theorem replaces_indexedRename : indexedRename.Replaces stage .indexedOutput
    fun m ↦ "gl_FragData[".toList ++ m.group 1 ++ "]".toList :=
  replaces_of_template ("gl_FragData[".toList.map .char ++ [.group 1] ++ "]".toList.map .char)
    (by rfl) (by rfl) (by rfl) rfl
    fun m ↦ by simp only [Template.expand_append, Template.expand_map_char, Template.expand_group]

theorem replaces_singleRename : singleRename.Replaces .fragment (.ofWord "out_FragColor")
    fun _ ↦ "gl_FragColor".toList :=
  replaces_of_word _ (by rfl) (by rfl) (by rfl) rfl

theorem replaces_singleElementRename : singleElementRename.Replaces .fragment .singleOutputElement
    fun m ↦ "gl_FragColor[".toList ++ m.group 1 ++ "]".toList :=
  replaces_of_template ("gl_FragColor[".toList.map .char ++ [.group 1] ++ "]".toList.map .char)
    (by rfl) (by rfl) (by rfl) rfl
    fun m ↦ by simp only [Template.expand_append, Template.expand_map_char, Template.expand_group]

theorem replaces_singleLayoutRemoval : singleLayoutRemoval.Replaces .fragment .singleLayout
    fun _ ↦ [] :=
  replaces_of_word _ (by rfl) (by rfl) (by rfl) rfl

theorem replaces_depthRename : depthRename.Replaces stage (.ofWord "gl_FragDepth")
    fun _ ↦ "gl_FragDepthEXT".toList :=
  replaces_of_word _ (by rfl) (by rfl) (by rfl) rfl

end Chain

/-! ## What declarations and elements match -/

namespace Pattern

open ShaderDowngrade.Expr

theorem spells_inputDeclaration {m : Match} (h : inputDeclaration.expr.Spells m.text m.groups) :
    ∃ b ∈ blanks.language, m.group 2 ∈ valueType.language ∧
      m.text = "in".toList ++ b ++ m.group 2 := by
  obtain ⟨k, gk, _, _, hk, h₁, htext, hgroups⟩ := spells_seqAll_group h
  obtain ⟨b, _, hb, h₂, rfl⟩ := spells_seqAll_some1 h₁
  obtain ⟨ty, gty, _, _, hty, ⟨rfl, rfl⟩, rfl, rfl⟩ := spells_seqAll_group h₂
  have hword : k ∈ language (word "in".toList) := ⟨gk, hk⟩
  rw [language_word, Set.mem_singleton_iff] at hword
  have htype : m.group 2 = ty := by simp [Match.group, hgroups]
  rw [htype]
  exact ⟨b, hb, ⟨gty, hty⟩, by rw [htext, hword, List.append_nil, List.append_assoc]⟩

/-- An output declaration remembers its type and its name. -/
theorem spells_outputDeclaration {m : Match} (h : outputDeclaration.expr.Spells m.text m.groups) :
    ∃ b ∈ blanks.language, ∃ b' ∈ blanks.language, m.group 2 ∈ valueType.language ∧
      m.group 3 ∈ (some1 [.range 'A' 'z', .single '_', digit]).language ∧
      m.text = "out".toList ++ b ++ m.group 2 ++ b' ++ m.group 3 ++ ";".toList := by
  obtain ⟨k, gk, _, _, hk, h₁, htext, hgroups⟩ := spells_seqAll_group h
  obtain ⟨b, _, hb, h₂, rfl⟩ := spells_seqAll_some1 h₁
  obtain ⟨ty, gty, _, _, hty, h₃, rfl, rfl⟩ := spells_seqAll_group h₂
  obtain ⟨b', _, hb', h₄, rfl⟩ := spells_seqAll_some1 h₃
  obtain ⟨_, _, _, _, hbody, h₅, rfl, rfl⟩ := spells_seqAll_group h₄
  obtain ⟨name, _, hname, ⟨rfl, rfl⟩, rfl⟩ := spells_seqAll_some1 hbody
  obtain ⟨_, rfl, ⟨rfl, rfl⟩⟩ := (@spells_seqAll_map_char_append ";".toList _ [] _).1 h₅
  have hword : k ∈ language (word "out".toList) := ⟨gk, hk⟩
  rw [language_word, Set.mem_singleton_iff] at hword
  have htype : m.group 2 = ty := by simp [Match.group, hgroups, List.lookup_cons]
  have hid : m.group 3 = name := by simp [Match.group, hgroups]
  rw [htype, hid]
  exact ⟨b, hb, b', hb', ⟨gty, hty⟩, hname, by simp [htext, hword]⟩

theorem expr_indexedOutput : indexedOutput.expr = .numbered "out_FragData_".toList [] := rfl

theorem expr_singleOutputElement :
    singleOutputElement.expr = .numbered "out_FragColor[".toList "]".toList := rfl

theorem spells_indexedOutput {m : Match} (h : indexedOutput.expr.Spells m.text m.groups) :
    m.group 1 ∈ digits.language ∧ m.text = "out_FragData_".toList ++ m.group 1 := by
  have hspells := spells_numbered (expr_indexedOutput ▸ h)
  rwa [List.append_nil] at hspells

/-- An element of the single output remembers its number. -/
theorem spells_singleOutputElement {m : Match}
    (h : singleOutputElement.expr.Spells m.text m.groups) :
    m.group 1 ∈ digits.language ∧
      m.text = "out_FragColor[".toList ++ m.group 1 ++ "]".toList :=
  spells_numbered (expr_singleOutputElement ▸ h)

theorem words_indexedOutput : indexedOutput.words = anyIndexedOutput.words := by
  simp only [words, indexedOutput, anyIndexedOutput, chars, language_seqAll_map_char_append,
    language_seqAll_singleton, language_group]

theorem occursIn_indexedOutput (t : Text) :
    indexedOutput.occursIn t = anyIndexedOutput.occursIn t :=
  occursIn_eq_of_occurs_iff (by rfl) (by rfl) (by rw [words_indexedOutput])

theorem words_modernInput : Finished.modernInput.words = inputDeclaration.words := by
  have hexpr : inputDeclaration.expr =
      .seq (.group 1 (.word "in".toList)) (.seqAll [blanks, .group 2 valueType]) := rfl
  simp only [words, Finished.modernInput, hexpr, chars, language_seqAll_map_char_append, seqAll,
    language_seq, language_group, language_word, Set.image2_singleton_left]

theorem occursIn_inputDeclaration (t : Text) :
    inputDeclaration.occursIn t = Finished.modernInput.occursIn t :=
  occursIn_eq_of_occurs_iff (by rfl) (by rfl) (by rw [words_modernInput])

theorem mem_words_inputDeclaration {w : Text} : w ∈ inputDeclaration.words ↔
    ∃ b ∈ blanks.language, ∃ type ∈ valueType.language, w = "in".toList ++ b ++ type := by
  rw [← words_modernInput, words, Finished.modernInput, chars, language_seqAll_map_char_append,
    seqAll, language_seq, language_seqAll_singleton, language_group]
  constructor
  · rintro ⟨_, ⟨b, hb, type, htype, rfl⟩, rfl⟩
    exact ⟨b, hb, type, htype, by simp⟩
  · rintro ⟨b, hb, type, htype, rfl⟩
    exact ⟨b ++ type, Set.mem_image2_of_mem hb htype, by simp⟩

theorem mem_language_twoNumbers {u v z w : Text} :
    w ∈ language (seqAll (u.map .char ++ [digits] ++ v.map .char ++ [digits] ++ z.map .char)) ↔
      ∃ d ∈ digits.language, ∃ d' ∈ digits.language, w = u ++ d ++ v ++ d' ++ z := by
  have hcons (es : List Expr) : language (seqAll ([digits] ++ es)) =
      Set.image2 (· ++ ·) digits.language (language (seqAll es)) := language_seq digits (seqAll es)
  have hz : language (seqAll (z.map .char)) = {z} := language_word z
  simp only [List.append_assoc]
  rw [language_seqAll_map_char_append, hcons, language_seqAll_map_char_append, hcons, hz,
    Set.image2_singleton_right]
  constructor
  · rintro ⟨_, ⟨d, hd, _, ⟨_, ⟨d', hd', rfl⟩, rfl⟩, rfl⟩, rfl⟩
    exact ⟨d, hd, d', hd', rfl⟩
  · rintro ⟨d, hd, d', hd', rfl⟩
    exact ⟨_, ⟨d, hd, _, ⟨_, ⟨d', hd', rfl⟩, rfl⟩, rfl⟩, rfl⟩

theorem mem_words_indexedLayout {w : Text} : w ∈ indexedLayout.words ↔
    ∃ d ∈ digits.language, ∃ d' ∈ digits.language, w = "layout (location = ".toList ++ d ++
      ") vec4 out_FragData_".toList ++ d' ++ ";".toList :=
  mem_language_twoNumbers

theorem exists_infix_of_mem_indexedLayout {w : Text} (h : w ∈ indexedLayout.words) :
    ∃ v ∈ anyIndexedOutput.words, v <:+: w := by
  obtain ⟨d, -, d', hd', rfl⟩ := mem_words_indexedLayout.1 h
  refine ⟨"out_FragData_".toList ++ d', ?_, "layout (location = ".toList ++ d ++ ") vec4 ".toList,
    ";".toList, ?_⟩
  · rw [words, anyIndexedOutput, chars, language_seqAll_map_char_append, language_seqAll_singleton]
    exact Set.mem_image_of_mem _ hd'
  · have : ") vec4 out_FragData_".toList = ") vec4 ".toList ++ "out_FragData_".toList := by rfl
    simp [this]

end Pattern

/-! ## The groups -/

namespace Chain

variable {stage : Stage} {t : Text}

theorem applicable_drawBuffersPrepend : drawBuffersPrepend.Applicable stage :=
  (Rule.apply_prepend (t := []) rfl).2

theorem applicable_depthPrepend : depthPrepend.Applicable stage :=
  (Rule.apply_prepend (t := []) rfl).2

theorem applicable_indexedOutputs : indexedOutputs.Applicable stage := by
  refine Rule.applicable_group ?_
  simp only [List.forall_mem_cons]
  exact ⟨applicable_drawBuffersPrepend, replaces_indexedLayoutRemoval.applicable,
    replaces_indexedRename.applicable, by simp⟩

/-- The numbered outputs: the directive goes in front, the layout declarations go, and the outputs
that are left are renamed. -/
theorem indexedOutputs_output (t : Text) : indexedOutputs.output .fragment t =
    if Pattern.indexedOutput.occursIn t = true then
      indexedRename.output .fragment (indexedLayoutRemoval.output .fragment
        (prependDirective drawBuffersDirective t))
    else t := by
  rw [indexedOutputs, Rule.output_group rfl, Rule.text_applyAll_cons applicable_drawBuffersPrepend,
    Rule.text_applyAll_cons replaces_indexedLayoutRemoval.applicable,
    Rule.text_applyAll_cons replaces_indexedRename.applicable, Rule.text_applyAll_nil,
    drawBuffersPrepend, (Rule.apply_prepend rfl).1]

theorem applicable_depthOutput : depthOutput.Applicable stage := by
  refine Rule.applicable_group ?_
  simp only [List.forall_mem_cons]
  exact ⟨applicable_depthPrepend, replaces_depthRename.applicable, by simp⟩

/-- The depth output: the directive goes in front, and the output is renamed. -/
theorem depthOutput_output (t : Text) : depthOutput.output .fragment t =
    if Text.includes t "gl_FragDepth".toList = true then
      depthRename.output .fragment (prependDirective fragDepthDirective t)
    else t := by
  rw [depthOutput, Rule.output_group rfl, Rule.text_applyAll_cons applicable_depthPrepend,
    Rule.text_applyAll_cons replaces_depthRename.applicable, Rule.text_applyAll_nil, depthPrepend,
    (Rule.apply_prepend rfl).1, Pattern.occursIn_of_expr_eq_word rfl]

end Chain

end ShaderDowngrade

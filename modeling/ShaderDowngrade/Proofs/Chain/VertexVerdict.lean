import ShaderDowngrade.Proofs.Chain.Early

/-!
# The strict verdict on vertex shaders

At the vertex stage three things can go wrong, and each of them can be told from the text before:
the cube sampler stands behind the beginning of its own name, an input declaration stands behind
an unfinished one that the keyword `attribute` completes, or the directives are in the text already
and in the other order.

Main statement: `Chain.run_strict_vertex`, the strict conversion of every source.

## How an input declaration comes about

`in floin vec3` becomes `in floattribute vec3`: the second declaration is rewritten, and the letters
`at` of its new keyword complete the type `float` of the first one, which the scan has passed. No
other beginning of a declaration can be completed in this way, since no other type goes on with the
letters of `attribute`.
-/

namespace ShaderDowngrade

open ShaderDowngrade.Expr

namespace Pattern

/-- An input declaration directly behind the beginning of another one, of type `float`. -/
def interruptedInput : Pattern :=
  ⟨"in\\s+floin\\s+(vec[0-9]|mat[0-9]|float)",
    .seqAll (chars "in" ++ [blanks] ++ chars "floin" ++ [blanks, .group 1 valueType])⟩

example : Pattern.read interruptedInput.spelling = .ok interruptedInput := by cbv

theorem words_blanks_shapes : Shape.words blanks.shapes = blanks.language := by
  refine Set.Subset.antisymm ?_ blanks.language_subset
  rintro b ⟨s, hs, hb⟩
  obtain rfl : s = [⟨Blank.ranges, true⟩] := List.mem_singleton.1 hs
  obtain ⟨hne, hall⟩ := Shape.fits_many_iff.1 hb
  refine ⟨[], Expr.spells_rep_one.2 ⟨List.length_pos_iff.2 hne, by simp, fun c hc ↦ ?_, rfl⟩⟩
  have := Blank.holds_ranges_iff.1 (hall c hc)
  simpa [CharTest.admits, ClassItem.admits] using this

/-- The beginnings of input declarations that the keyword `attribute` completes. -/
def floatStubs : List Shape :=
  Shape.joined (Shape.joined [.ofWord "in".toList] blanks.shapes) [.ofWord "flo".toList]

theorem mem_words_floatStubs {k : Text} :
    k ∈ Shape.words floatStubs ↔ ∃ b ∈ blanks.language, k = "in".toList ++ b ++ "flo".toList := by
  simp only [floatStubs, Shape.words_joined, Shape.words_ofWord, words_blanks_shapes,
    Set.image2_singleton_left, Set.image2_singleton_right, Set.mem_image, exists_exists_and_eq_and]
  exact exists_congr fun b ↦ and_congr_right fun _ ↦ eq_comm

theorem words_interruptedInput : interruptedInput.words =
    Set.image2 (· ++ ·) (Shape.words floatStubs) inputDeclaration.words := by
  ext w
  rw [words, interruptedInput, chars, chars, List.append_assoc, List.append_assoc,
    language_seqAll_map_char_append, List.singleton_append, seqAll, language_seq,
    language_seqAll_map_char_append, seqAll, language_seq, language_seqAll_singleton,
    language_group]
  have hword : "floin".toList = "flo".toList ++ "in".toList := by rfl
  constructor
  · rintro ⟨_, ⟨b, hb, _, ⟨_, ⟨b', hb', type, htype, rfl⟩, rfl⟩, rfl⟩, rfl⟩
    refine ⟨_, mem_words_floatStubs.2 ⟨b, hb, rfl⟩, _,
      mem_words_inputDeclaration.2 ⟨b', hb', type, htype, rfl⟩, ?_⟩
    simp [hword]
  · rintro ⟨k, hk, w, hw, rfl⟩
    obtain ⟨b, hb, rfl⟩ := mem_words_floatStubs.1 hk
    obtain ⟨b', hb', type, htype, rfl⟩ := mem_words_inputDeclaration.1 hw
    refine ⟨_, Set.mem_image2_of_mem hb
      (Set.mem_image_of_mem _ (Set.mem_image2_of_mem hb' htype)), ?_⟩
    simp [hword]

end Pattern

namespace Chain

open Pattern (floatStubs interruptedInput)

variable {source t : Text}

theorem occursIn_vertexInput (t : Text) :
    Pattern.inputDeclaration.occursIn (vertexInput.output .vertex t) =
      interruptedInput.occursIn t := by
  have hfloat : "float".toList ∈ Pattern.valueType.language := by
    obtain ⟨g, hg⟩ : "float".toList ∈ (word "float".toList).language := by
      rw [language_word, Set.mem_singleton_iff]
    exact ⟨g, .inr (.inr hg)⟩
  have hiff := replaces_vertexInput.occurs_iff_stub (Exchange.typedInput "attribute ").put
    (by cbv : _ = floatStubs) (fun _ hm ↦ mem_put_typedInput "attribute " hm) (by rfl)
    (by cbv) (by cbv) (by cbv) (fun k hk m _ ↦ by
      obtain ⟨b, hb, rfl⟩ := Pattern.mem_words_floatStubs.1 hk
      refine ⟨_, Pattern.mem_words_inputDeclaration.2 ⟨b, hb, _, hfloat, rfl⟩, ?_⟩
      exact ⟨"tribute ".toList ++ m.group 2, by simp⟩) t
  refine Pattern.occursIn_eq_of_occurs_iff (by rfl) (by rfl) ?_
  rw [Pattern.words_interruptedInput]
  exact hiff

theorem occursIn_vertexOutput (t : Text) :
    Pattern.outputDeclaration.occursIn (vertexOutput.output .vertex t) = false := by
  have hput (m : Match) (hm : Pattern.outputDeclaration.expr.Spells m.text m.groups) :
      "varying ".toList ++ m.group 2 ++ " ".toList ++ m.group 3 ++ ";".toList ∈
        Shape.words (Shape.joined (Shape.joined Exchange.output.put
          (some1 [.range 'A' 'z', .single '_', Pattern.digit]).shapes) [.ofWord ";".toList]) := by
    obtain ⟨-, -, -, -, htype, hname, -⟩ := Pattern.spells_outputDeclaration hm
    have htype := language_subset _ htype
    refine Shape.append_mem_words (Shape.append_mem_words ?_ (language_subset _ hname)) (by simp)
    exact Shape.append_mem_words (Shape.append_mem_words (by simp) htype) (by simp)
  exact (Pattern.occursIn_eq_false_iff (by rfl) _).2
    (replaces_vertexOutput.not_occurs hput (by cbv) (by rfl) t)

/-! ## The verdict -/

/-- The text that the rules of the vertex stage leave. -/
def vertexText (source : Text) : Text :=
  vertexOutput.output .vertex (vertexInput.output .vertex (renamed .vertex source))

theorem downgrade_vertex (source : Text) : downgrade .vertex source = vertexText source := by
  rw [downgrade_eq, late, Rule.text_applyAll_cons_of_not_admits rfl,
    Rule.text_applyAll_cons replaces_vertexInput.applicable,
    Rule.text_applyAll_cons replaces_vertexOutput.applicable]
  iterate 5 rw [Rule.text_applyAll_cons_of_not_admits rfl]
  rw [Rule.text_applyAll_nil, vertexText]

theorem exchanged_vertexText (source : Text) :
    Exchanged [.version, .cube, .sampling, .input "attribute ", .output] source
      (vertexText source) :=
  ((exchanged_renamed .vertex source).trans (exchanged_input replaces_vertexInput _).1).trans
    (exchanged_vertexOutput _)

theorem exchanged_later (source : Text) :
    Exchanged [.input "attribute ", .output] (renamed .vertex source) (vertexText source) :=
  (exchanged_input replaces_vertexInput _).1.trans (exchanged_vertexOutput _)

theorem includes_vertexText {w : String} (hw : w ∈ modernWords)
    (hrenamed : Text.includes (renamed .vertex source) w.toList = false) :
    Text.includes (vertexText source) w.toList = false :=
  (exchanged_later source).includes_modern_eq_false (by simp [Exchange.later]) hw hrenamed

/-- What is wrong with the finished text of a vertex shader, if no rule has found anything. -/
theorem check_vertexText (hcube : Text.includes source "czm_czm_textureCube".toList = false)
    (hinput : interruptedInput.occursIn (renamed .vertex source) = false) :
    Finished.check .vertex (vertexText source) =
      if Text.startsBefore drawBuffersDirective.toList fragDepthDirective.toList source = true then
        [.directiveOrder] else [] := by
  have hmodern : Finished.modernInput.occursIn (vertexText source) = false := by
    rw [← occursIn_vertexInput, Pattern.occursIn_eq_false_iff (by rfl)] at hinput
    rw [Pattern.occursIn_eq_false_iff (by rfl), Pattern.words_modernInput]
    exact fun h ↦ hinput ((exchanged_vertexOutput _).occurs_of_occurs
      Pattern.inputDeclaration.words_subset (by cbv) h)
  rw [Finished.check_eq
    (includes_vertexText (by simp [modernWords]) (includes_renamed_version .vertex source))
    (includes_vertexText (by simp [modernWords, defaultCubeSampler])
      (includes_renamed_cube hcube .vertex))
    (includes_vertexText (by simp [modernWords]) (includes_renamed_sampling .vertex source))
    hmodern, Finished.checkOrder_eq,
    (exchanged_vertexText source).startsBefore_directives_eq (by simp [Exchange.undirected])]
  rfl

theorem violations_vertexInput (t : Text) :
    vertexInput.violations .vertex (vertexInput.output .vertex t) =
      if interruptedInput.occursIn t = true then
        [.patternPresent "VertexInputQualifier" "(in)\\s+(vec[0-9]|mat[0-9]|float)"] else [] := by
  rw [← occursIn_vertexInput, vertexInput, Substitution.violations_of_forbids rfl rfl]
  rfl

theorem violations_vertexOutput (t : Text) :
    vertexOutput.violations .vertex (vertexOutput.output .vertex t) = [] :=
  (Rule.violations_eq_nil_iff rfl rfl).2 (occursIn_vertexOutput t)

/-- The strict run over the later rules at the vertex stage. -/
theorem ending_late_vertex (t : Text) : StrictRun.ending late .vertex t =
    if interruptedInput.occursIn t = true then
      .error (.violated "VertexInputQualifier" [.patternPresent "VertexInputQualifier"
        "(in)\\s+(vec[0-9]|mat[0-9]|float)"])
    else StrictRun.verdict StrictRun.finalStep
      (Finished.check .vertex (vertexOutput.output .vertex (vertexInput.output .vertex t)))
      (vertexOutput.output .vertex (vertexInput.output .vertex t)) := by
  rw [late, StrictRun.ending_cons_of_not_admits rfl,
    StrictRun.ending_cons replaces_vertexInput.applicable, violations_vertexInput]
  split
  · rfl
  · rw [if_pos rfl, StrictRun.ending_cons_of_smooth replaces_vertexOutput.applicable
      (violations_vertexOutput _)]
    iterate 5 rw [StrictRun.ending_cons_of_not_admits rfl]
    rw [StrictRun.ending_nil]

/-- **The strict verdict on vertex shaders.** Whether a vertex shader is refused, at which step and
for what reason can be told from the source and from the text that the first rules leave. One that
is not refused is converted as it is without checks. -/
theorem run_strict_vertex (source : Text) :
    Conversion.run standard true .vertex source =
      if Text.includes source "czm_czm_textureCube".toList = true then
        .error (.violated "CubeSamplingRename"
          [.patternPresent "CubeSamplingRename" "czm_textureCube"])
      else if interruptedInput.occursIn (Rule.applyAll [versionDowngrade,
          cubeSampling defaultCubeSampler, textureCall] .vertex "" source).text = true then
        .error (.violated "VertexInputQualifier" [.patternPresent "VertexInputQualifier"
          "(in)\\s+(vec[0-9]|mat[0-9]|float)"])
      else if Text.startsBefore drawBuffersDirective.toList fragDepthDirective.toList source = true
      then .error (.violated "validate_output" [.directiveOrder])
      else .ok
        { source, output := downgrade .vertex source, stage := .vertex
          ledger := Ledger.recordAll { stage := some .vertex }
            (Rule.applyAll standard .vertex "" source).entries
          strict := true, ruleNames := standard.map Rule.name } := by
  have htext : (Rule.applyAll [versionDowngrade, cubeSampling defaultCubeSampler, textureCall]
      .vertex "" source).text = renamed .vertex source := rfl
  rw [Conversion.run_strict, ending_standard, ending_late_vertex, ← vertexText, htext]
  by_cases hcube : Text.includes source "czm_czm_textureCube".toList = true
  · rw [if_pos hcube, if_pos hcube]
    rfl
  · rw [if_neg hcube, if_neg hcube]
    by_cases hinput : interruptedInput.occursIn (renamed .vertex source) = true
    · rw [if_pos hinput, if_pos hinput]
      rfl
    · rw [if_neg hinput, if_neg hinput, check_vertexText (by simpa using hcube)
        (by simpa using hinput)]
      by_cases horder : Text.startsBefore drawBuffersDirective.toList fragDepthDirective.toList
          source = true
      · rw [if_pos horder, if_pos horder]
        rfl
      · rw [if_neg horder, if_neg horder]
        rfl

end Chain

end ShaderDowngrade

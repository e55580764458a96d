import ShaderDowngrade.Proofs.Chain.FragmentText
import ShaderDowngrade.Proofs.Chain.VertexVerdict
import ShaderDowngrade.Proofs.Pattern.Interrupted

/-!
# The modern spellings

The version pragma and the sampling calls are renamed before anything else, and no later rule puts
in a piece that could complete one of them. At the vertex stage they are gone for good. At the
fragment stage there is one way back: the layout declarations of numbered outputs are deleted after
the renaming, and what stood around them is joined.

Main statement: `Chain.includes_downgrade_iff`, the result has a modern spelling exactly if the
source of a fragment shader has it interrupted by such declarations.

## Why the condition can be put on the source

The declarations, and a spelling that they interrupt, come through the rules in between unharmed:
no rule before the deletion takes out or puts in a piece that reaches into either of them.
-/

namespace ShaderDowngrade

/-- A spelling of GLSL ES 3.00 that the chain replaces wherever it stands. -/
inductive ModernSpelling
  | versionPragma
  | samplingCall
deriving DecidableEq, Repr

/-- The spelling as it stands in a text. -/
def ModernSpelling.word : ModernSpelling → String
  | .versionPragma => "version 300 es"
  | .samplingCall => "texture("

theorem ModernSpelling.word_mem_modernWords (w : ModernSpelling) : w.word ∈ modernWords := by
  cases w <;> simp [word, modernWords]

/-- A word that is interrupted by matches of the pattern is neither made nor broken by exchanges of
pieces from which it is apart. -/
theorem Exchanged.occurs_interrupted_iff {xs : List Exchange} {s t : Text} (h : Exchanged xs s t)
    (p : Pattern) {w : Text}
    (htaken : Shape.interruptedApart w p.shapes (xs.flatMap Exchange.taken) = true)
    (hput : Shape.interruptedApart w p.shapes (xs.flatMap Exchange.put) = true) :
    Text.Occurs (Text.interrupted p.words w) t ↔ Text.Occurs (Text.interrupted p.words w) s :=
  Text.Swaps.occurs_iff h (Shape.apart_interrupted p.words_subset htaken)
    (Shape.apart_interrupted p.words_subset hput)

namespace Chain

variable {source d : Text}

theorem includes_renamed (w : ModernSpelling) (stage : Stage) (source : Text) :
    Text.includes (renamed stage source) w.word.toList = false := by
  cases w with
  | versionPragma => exact includes_renamed_version stage source
  | samplingCall => exact includes_renamed_sampling stage source

theorem includes_qualified (w : ModernSpelling) (source : Text) :
    Text.includes (qualified source) w.word.toList = false :=
  (exchanged_input replaces_fragmentInput _).1.includes_modern_eq_false (by simp [Exchange.later])
    w.word_mem_modernWords (includes_renamed w .fragment source)

/-- What the deletion of the layout declarations joins. -/
theorem occurs_unlaid_iff (w : ModernSpelling)
    (hd : Pattern.indexedLayout.Rewrites (fun _ ↦ []) (qualified source) d) :
    Text.Occurs {w.word.toList} d ↔ Text.Occurs
      (Text.interrupted Pattern.indexedLayout.words w.word.toList) (qualified source) := by
  have hclosed : Pattern.indexedLayout.shapes.all (Shape.closedBy ';') = true := by decide +kernel
  have hfirst : Shape.separate (w.word.toList.map fun c ↦ Shape.ofWord [c])
      Pattern.indexedLayout.shapes = true := by cases w <;> decide +kernel
  have hout : Shape.outside (Shape.joined (Shape.ofWord w.word.toList).starts
      Pattern.indexedLayout.shapes) Pattern.indexedLayout.shapes = true := by
    cases w <;> decide +kernel
  rw [Text.occurs_singleton, Text.includes_iff]
  refine hd.occurs_iff_interrupted (by cases w <;> decide) ?_ ?_ ?_ ?_
  · rw [← Text.includes_iff, includes_qualified]
    exact Bool.false_ne_true
  · intro c hc x hx
    obtain ⟨s, hs, hfits⟩ := Pattern.indexedLayout.words_subset hx
    exact Shape.not_comparable_of_separate hfirst (List.mem_map_of_mem hc) hs
      (Shape.fits_ofWord_iff.2 rfl) hfits
  · exact fun x hx y hy ↦ Shape.eq_of_comparable hclosed
      (Pattern.indexedLayout.words_subset hx) (Pattern.indexedLayout.words_subset hy)
  · exact (Shape.outside_interrupted Pattern.indexedLayout.words_subset hout).mono
      (le_refl _) Pattern.indexedLayout.words_subset

/-- **A modern spelling is in the result** exactly at the fragment stage, and there exactly if the
source has it from its first character to its last, with layout declarations of numbered outputs
between its characters. -/
theorem includes_downgrade_iff (w : ModernSpelling) (stage : Stage) (source : Text) :
    Text.includes (downgrade stage source) w.word.toList = true ↔ stage = .fragment ∧
      Text.Occurs (Text.interrupted Pattern.indexedLayout.words w.word.toList) source := by
  cases stage with
  | vertex =>
    rw [downgrade_vertex, includes_vertexText w.word_mem_modernWords (includes_renamed w _ source)]
    simp
  | fragment =>
    obtain ⟨d, hd, hlater, hkept⟩ := exists_unlaid_fragmentText source
    have hword := singleton_subset_modernShapes w.word_mem_modernWords
    have htaken : Shape.apart modernShapes
        ([.indexed, .single, .depth].flatMap Exchange.taken) = true := by decide +kernel
    have hfinal : Text.Occurs {w.word.toList} (fragmentText source) ↔
        Text.Occurs {w.word.toList} d :=
      ⟨(hlater.mono (by simp [Exchange.later])).occurs_of_occurs hword modernShapes_apart,
        fun h ↦ hkept ((Shape.apart_words htaken).mono hword (le_refl _)) h⟩
    have hsource := (exchanged_qualified source).occurs_interrupted_iff Pattern.indexedLayout
      (w := w.word.toList) (by cases w <;> decide +kernel) (by cases w <;> decide +kernel)
    rw [downgrade_fragment, ← Text.occurs_singleton, hfinal, occurs_unlaid_iff w hd, hsource]
    simp

/-- The deletion joins a sampling call that the renaming could not see. -/
theorem downgrade_interrupted_call :
    downgrade .fragment "texturlayout (location = 0) vec4 out_FragData_0;e(".toList =
        "#extension GL_EXT_draw_buffers : enable\n texture(".toList ∧
      Text.includes (downgrade .fragment
        "texturlayout (location = 0) vec4 out_FragData_0;e(".toList) "texture(".toList = true := by
  decide +kernel

end Chain

end ShaderDowngrade

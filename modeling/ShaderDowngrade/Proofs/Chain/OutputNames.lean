import ShaderDowngrade.Proofs.Chain.Directives
import ShaderDowngrade.Proofs.Chain.VertexVerdict
import ShaderDowngrade.Proofs.Pattern.Locality

/-!
# Names of fragment outputs in vertex shaders

A vertex shader may use the names of fragment outputs for things of its own. The rules of the
vertex stage pass over them: whatever stands around a name, and whichever declaration it stands in,
the names in the output are those in the source, in the same order and with the same numbers, and
no directive is put in front.

Main statements: `Exchanged.allMatches_eq`, the matches that a row of steps conserves;
`Chain.outputNames_vertex`, the names in the output.

## The name of an output declaration

The name of an output that a vertex shader declares may be one of the names, or have one in it, and
the rule for declarations matches it and writes it back. What this rule exchanges is only what
stands before the name, so the name is text around a piece like any other.
-/

namespace ShaderDowngrade

/-- A name of a fragment output, with all digits of its number. -/
def Pattern.outputName : Pattern :=
  ⟨"out_FragData_[0-9]+|out_FragColor|gl_FragDepth",
    .alt (.seqAll (chars "out_FragData_" ++ [digits]))
      (.alt (.word "out_FragColor".toList) (.word "gl_FragDepth".toList))⟩

example : Pattern.read Pattern.outputName.spelling = .ok .outputName := by cbv

/-- A pattern that is apart from all pieces matches the same before and after a row of steps, as
often and in the same order. -/
theorem Exchanged.allMatches_eq {xs : List Exchange} {s t : Text} {p : Pattern}
    (h : Exchanged xs s t) (hp : p.expr.Plain = true) (hne : p.shapes.all (!·.isEmpty) = true)
    (htaken : Shape.apart p.shapes (xs.flatMap Exchange.taken) = true)
    (hput : Shape.apart p.shapes (xs.flatMap Exchange.put) = true) :
    p.allMatches t = p.allMatches s := by
  have hnil := Pattern.nil_notMem_words hne
  exact Pattern.allMatches_eq_of_swaps (fun _ ↦ Pattern.separates_of_apart hp hnil htaken)
    (fun _ ↦ Pattern.separates_of_apart hp hnil hput) h

namespace Chain

theorem allMatches_vertexText (source : Text) :
    Pattern.outputName.allMatches (vertexText source) = Pattern.outputName.allMatches source := by
  have hapart : let xs : List Exchange :=
        [.version, .cube, .sampling, .input "attribute ", .output]
      Shape.apart Pattern.outputName.shapes (xs.flatMap Exchange.taken) = true ∧
        Shape.apart Pattern.outputName.shapes (xs.flatMap Exchange.put) = true := by
    decide +kernel
  exact (exchanged_vertexText source).allMatches_eq rfl rfl hapart.1 hapart.2

/-- **The vertex stage leaves fragment outputs alone.** Every vertex shader is converted; the names
of fragment outputs in its output are those in the source, in order and with all their digits, and
no directive is put in front, so that it makes no difference whether the rules put any. -/
theorem outputNames_vertex (source : Text) : ∃ c b : Conversion,
    Conversion.run standard false .vertex source = .ok c ∧
      Conversion.run (Rule.withoutPrependsAll standard) false .vertex source = .ok b ∧
      Pattern.outputName.allMatches c.output = Pattern.outputName.allMatches source ∧
      c.directives = [] ∧ c.output = b.output := by
  have hfault : (Rule.applyAll standard .vertex "" source).fault = none :=
    fault_forSampler defaultCubeSampler .vertex source
  have hheaded : Run.Headed directivesInUse [] (Rule.applyAll standard .vertex "" source)
      (Rule.applyAll (Rule.withoutPrependsAll standard) .vertex "" source) :=
    headed_forSampler defaultCubeSampler .vertex source
  have hdirectives : (Rule.applyAll standard .vertex "" source).directives = [] :=
    (directives_forSampler defaultCubeSampler .vertex source).trans (directives_late_vertex _)
  have htext : (Rule.applyAll standard .vertex "" source).text = vertexText source :=
    downgrade_vertex source
  have hbare : (Rule.applyAll standard .vertex "" source).text =
      (Rule.applyAll (Rule.withoutPrependsAll standard) .vertex "" source).text := by
    rw [hheaded.text_eq, hdirectives, headerOf_nil, List.nil_append, List.nil_append]
  refine ⟨_, _, Conversion.run_plain hfault,
    Conversion.run_plain (hheaded.fault_eq.symm.trans hfault), ?_, hdirectives, ?_⟩
  · rw [htext, allMatches_vertexText]
  · dsimp only
    exact hbare

end Chain

end ShaderDowngrade

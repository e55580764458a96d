import ShaderDowngrade.Proofs.Chain.FragmentVerdict
import ShaderDowngrade.Proofs.Chain.VertexVerdict

/-!
# Rules and their own postconditions

A rule that is run on its own is to leave nothing that its postcondition forbids. This is not
automatic: a substitution goes through the text once, and what it puts in may make a match together
with the text around it, as may the two sides of what it takes out.

Seven rules of the chain leave their postconditions true of every text, and so do they at the stage
at which they do not run. The input rule of the vertex stage does not, and its failures can be told
from the text that it is given: they are the interrupted declarations.

Main statement: `Chain.establishes_or_interrupted`.
-/

namespace ShaderDowngrade

namespace Rule

variable {r : Rule} {s stage : Stage}

/-- Run on its own, the rule leaves a text that its postcondition is true of, whatever the text, the
stage and the group in which it runs. -/
def Establishes (r : Rule) : Prop :=
  ∀ stage outer t, (r.apply stage outer t).fault = none ∧
    r.violations stage (r.apply stage outer t).text = []

theorem Establishes.of_output (happ : ∀ stage, r.Applicable stage)
    (h : ∀ stage t, r.violations stage (r.output stage t) = []) : r.Establishes := by
  intro stage outer t
  obtain ⟨htext, hfault⟩ := apply_outer r stage outer t
  rw [htext, hfault]
  exact ⟨happ stage t, h stage t⟩

theorem Establishes.of_stage (happ : r.Applicable s)
    (hother : ∀ stage, stage ≠ s → r.admits stage = false)
    (h : ∀ t, r.violations s (r.output s t) = []) : r.Establishes := by
  refine .of_output (fun stage ↦ ?_) fun stage t ↦ ?_
  · by_cases hstage : stage = s
    · rw [hstage]
      exact happ
    · exact applicable_of_not_admits (hother stage hstage)
  · by_cases hstage : stage = s
    · rw [hstage]
      exact h t
    · obtain ⟨houtput, hviolations⟩ := idle_of_not_admits (hother stage hstage) (t := t)
      rw [houtput, hviolations]

end Rule

namespace Chain

open Pattern (interruptedInput)

/-- **Rules establish their own postconditions**, run alone on any text at any stage. The input rule
of the vertex stage does so exactly if the text has no interrupted declaration. -/
theorem establishes_or_interrupted :
    (∀ r ∈ [versionDowngrade, textureCall, fragmentInput, vertexOutput, indexedOutputs,
      singleRename, depthOutput], r.Establishes) ∧
    ∀ outer t, (vertexInput.apply .vertex outer t).fault = none ∧
      (vertexInput.violations .vertex (vertexInput.apply .vertex outer t).text ≠ [] ↔
        interruptedInput.occursIn t = true) := by
  have hfragment (stage : Stage) (h : stage ≠ .fragment) :
      Gate.fragmentOnly.admits stage = false := by
    cases stage with
    | vertex => rfl
    | fragment => exact absurd rfl h
  have hvertex (stage : Stage) (h : stage ≠ .vertex) : Gate.vertexOnly.admits stage = false := by
    cases stage with
    | vertex => exact absurd rfl h
    | fragment => rfl
  constructor
  · simp only [List.forall_mem_cons]
    refine ⟨?_, ?_, ?_, ?_, ?_, ?_, ?_, by simp⟩
    · exact .of_output (fun _ ↦ replaces_versionDowngrade.applicable)
        fun _ ↦ violations_versionDowngrade
    · exact .of_output (fun _ ↦ replaces_textureCall.applicable) fun _ ↦ violations_textureCall
    · exact .of_stage replaces_fragmentInput.applicable hfragment violations_fragmentInput
    · exact .of_stage replaces_vertexOutput.applicable hvertex violations_vertexOutput
    · exact .of_stage applicable_indexedOutputs hfragment violations_indexedOutputs
    · exact .of_stage replaces_singleRename.applicable hfragment violations_singleRename
    · exact .of_stage applicable_depthOutput hfragment violations_depthOutput
  · intro outer t
    obtain ⟨htext, hfault⟩ := vertexInput.apply_outer .vertex outer t
    rw [htext, hfault, violations_vertexInput]
    exact ⟨replaces_vertexInput.applicable t, by simp⟩

/-- The declaration behind an unfinished one gives the unfinished one a type. -/
theorem establishes_or_interrupted_float :
    let t := "in floin vec3 a;".toList
    interruptedInput.occursIn t = true ∧
      (vertexInput.apply .vertex "" t).text = "in floattribute vec3 a;".toList ∧
      vertexInput.violations .vertex (vertexInput.apply .vertex "" t).text ≠ [] ∧
      fragmentInput.violations .fragment (fragmentInput.apply .fragment "" t).text = [] :=
  have hinterrupted : interruptedInput.occursIn "in floin vec3 a;".toList = true := by
    decide +kernel
  ⟨hinterrupted, by decide +kernel, (establishes_or_interrupted.2 "" _).2.2 hinterrupted,
    (establishes_or_interrupted.1 fragmentInput (by simp) .fragment "" _).2⟩

end Chain

end ShaderDowngrade

import ShaderDowngrade.Stage
import ShaderDowngrade.Text.Quoted

/-!
# Violations

What can be found wrong with a text: a rule did not leave it as it should, or a finished text does
not look as all finished texts should.
-/

namespace ShaderDowngrade

/-- Something wrong with a text. -/
inductive Violation where
  /-- The pattern that a rule forbids still matches. -/
  | patternPresent (rule spelling : String)
  /-- The directive of a rule is not in the text. -/
  | directiveMissing (rule directive : String)
  /-- The version pragma is still the modern one. -/
  | modernVersion
  /-- The name of the cube sampler is still in the text. -/
  | modernCubeSampling
  /-- A unified sampling call is still in the text. -/
  | modernSampling
  /-- Inputs of these types are still declared in the modern way. -/
  | modernInputs (stage : Stage) (types : List String)
  /-- A numbered output is still in the text. -/
  | indexedOutput
  /-- The single output is still in the text. -/
  | singleOutput
  /-- The depth output is still without its suffix. -/
  | bareDepth
  /-- The draw buffers directive comes before the depth directive. -/
  | directiveOrder
  /-- What a rule of another kind finds wrong, in its own words. -/
  | stated (text : String)
deriving DecidableEq, Repr

/-- The violation in words. -/
def Violation.message : Violation → String
  | .patternPresent rule spelling => rule ++ ": pattern " ++ quoted spelling ++ " still present"
  | .directiveMissing rule directive => rule ++ ": directive " ++ quoted directive ++ " missing"
  | .modernVersion => "Version pragma '300 es' survived demodernization"
  | .modernCubeSampling => "Cube sampling built-in 'czm_textureCube' survived"
  | .modernSampling => "Unified sampling call 'texture(' survived"
  | .modernInputs stage types =>
    stage.name ++ " shader still declares modern inputs of type " ++ quotedList types
  | .indexedOutput => "Indexed output 'out_FragData_<N>' survived"
  | .singleOutput => "Single output 'out_FragColor' survived"
  | .bareDepth => "Depth built-in 'gl_FragDepth' was not extension-qualified"
  | .directiveOrder => "Extension directives out of order: frag_depth must precede draw_buffers"
  | .stated text => text

/-- The report of violations that were found after a step. -/
def violationReport (step : String) (messages : List String) : String :=
  "Invariant violation after " ++ step ++ ":\n" ++ "\n".intercalate messages

end ShaderDowngrade

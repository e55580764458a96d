import ShaderDowngrade.Chain

/-!
# Finished texts

What holds of a text that has gone through the whole chain, whatever it was before: the modern
version pragma and the modern sampling functions are gone, inputs are declared in the legacy way,
a fragment shader writes the legacy outputs, and the directives stand in the order of the chain.
Each check lists what it finds wrong.
-/

namespace ShaderDowngrade.Finished

/-- A modern input declaration up to its type, remembering the type. -/
def modernInput : Pattern :=
  ⟨"in\\s+(vec[0-9]|mat[0-9]|float)",
    Expr.seqAll (Pattern.chars "in" ++ [Pattern.blanks, .group 1 Pattern.valueType])⟩

example : Pattern.read modernInput.spelling = .ok modernInput := by cbv

/-- The list without repetitions, in the order of code points, extended by one text. -/
def insertDistinct (t : Text) : List Text → List Text
  | [] => [t]
  | u :: us => if t = u then u :: us else if t < u then t :: u :: us else u :: insertDistinct t us

/-- The types of modern input declarations, each once, in the order of code points. -/
def modernInputTypes (text : Text) : List Text :=
  ((modernInput.allMatches text).map (·.group 1)).foldr insertDistinct []

/-- A violation if the condition holds. -/
def flag (condition : Bool) (v : Violation) : List Violation := if condition then [v] else []

/-- The modern version pragma is gone. -/
def checkVersion (text : Text) : List Violation :=
  flag (Text.includes text "version 300 es".toList) .modernVersion

/-- The modern sampling functions are gone. -/
def checkSampling (text : Text) : List Violation :=
  flag (Text.includes text "czm_textureCube".toList) .modernCubeSampling ++
    flag (Text.includes text "texture(".toList) .modernSampling

/-- No input is declared in the modern way. -/
def checkInputs (stage : Stage) (text : Text) : List Violation :=
  let types := modernInputTypes text
  flag (!types.isEmpty) (.modernInputs stage (types.map String.ofList))

/-- A fragment shader writes the legacy outputs only. -/
def checkOutputs (stage : Stage) (text : Text) : List Violation :=
  if stage.isFragment then
    flag (Pattern.anyIndexedOutput.occursIn text) .indexedOutput ++
      flag (Text.includes text "out_FragColor".toList) .singleOutput ++
      flag (Pattern.bareDepth.occursIn text) .bareDepth
  else []

/-- If both directives are there, the depth directive comes first. -/
def checkOrder (text : Text) : List Violation :=
  match Text.indexOf? text fragDepthDirective.toList,
    Text.indexOf? text drawBuffersDirective.toList with
  | some depth, some buffers => flag (buffers < depth) .directiveOrder
  | _, _ => []

/-- All checks. -/
def check (stage : Stage) (text : Text) : List Violation :=
  checkVersion text ++ checkSampling text ++ checkInputs stage text ++ checkOutputs stage text ++
    checkOrder text

end ShaderDowngrade.Finished

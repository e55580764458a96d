import ShaderDowngrade.Rule.Run

/-!
# The chain of rules

The rules that take a shader from GLSL ES 3.00 to GLSL ES 1.00, in the order in which they run.
The order matters: the layout declarations of numbered outputs are deleted while they still have
their old names, and the depth directive, put in front last, ends up on the first line.

Patterns are given as expressions, next to the spelling that messages show; the examples at the end
check that reading the spelling gives the expression.
-/

namespace ShaderDowngrade

/-! ## Words and types -/

/-- The directive that enables numbered outputs. -/
def drawBuffersDirective : String := "#extension GL_EXT_draw_buffers : enable"

/-- The directive that enables writing the depth. -/
def fragDepthDirective : String := "#extension GL_EXT_frag_depth : enable"

/-- The name that the cube sampler has unless another one is given. -/
def defaultCubeSampler : String := "czm_textureCube"

namespace Pattern

/-- A pattern for a word that needs no escapes. -/
def ofWord (w : String) : Pattern := ⟨w, .word w.toList⟩

/-- The literal characters of a word, one expression each. -/
def chars (w : String) : List Expr := w.toList.map Expr.char

def digit : ClassItem := .range '0' '9'

/-- One or more decimal digits. -/
def digits : Expr := .some1 [digit]

/-- One or more blank characters. -/
def blanks : Expr := .some1 [.blank]

/-- A type that inputs and outputs are declared with: a vector, a matrix, or `float`. -/
def valueType : Expr :=
  .alt (.seqAll (chars "vec" ++ [.one (.oneOf [digit])]))
    (.alt (.seqAll (chars "mat" ++ [.one (.oneOf [digit])])) (.word "float".toList))

/-- A unified sampling call up to its opening bracket. -/
def textureCall : Pattern := ⟨"texture\\(", .word "texture(".toList⟩

/-- The declaration of an input up to its type. -/
def inputDeclaration : Pattern :=
  ⟨"(in)\\s+(vec[0-9]|mat[0-9]|float)",
    .seqAll [.group 1 (.word "in".toList), blanks, .group 2 valueType]⟩

/-- The declaration of a named output. -/
def outputDeclaration : Pattern :=
  ⟨"(out)\\s+(vec[0-9]|mat[0-9]|float)\\s+([A-z_0-9]+);",
    .seqAll [.group 1 (.word "out".toList), blanks, .group 2 valueType, blanks,
      .group 3 (.seqAll [.some1 [.range 'A' 'z', .single '_', digit]]), .char ';']⟩

/-- A numbered output, remembering its number. -/
def indexedOutput : Pattern :=
  ⟨"out_FragData_([0-9]+)", .seqAll (chars "out_FragData_" ++ [.group 1 (.seqAll [digits])])⟩

/-- A numbered output. -/
def anyIndexedOutput : Pattern :=
  ⟨"out_FragData_[0-9]+", .seqAll (chars "out_FragData_" ++ [digits])⟩

/-- The declaration of a numbered output with its location. -/
def indexedLayout : Pattern :=
  ⟨"layout \\(location = [0-9]+\\) vec4 out_FragData_[0-9]+;",
    .seqAll (chars "layout (location = " ++ [digits] ++ chars ") vec4 out_FragData_" ++ [digits] ++
      chars ";")⟩

/-- An element of the single output, remembering its number. -/
def singleOutputElement : Pattern :=
  ⟨"out_FragColor\\[([0-9]+)\\]",
    .seqAll (chars "out_FragColor[" ++ [.group 1 (.seqAll [digits]), .char ']'])⟩

/-- The declaration of the single output at location 0, up to its name. -/
def singleLayout : Pattern :=
  ⟨"layout \\(location = 0\\) vec4 out_FragColor",
    .word "layout (location = 0) vec4 out_FragColor".toList⟩

/-- The depth output without its suffix. -/
def bareDepth : Pattern :=
  ⟨"gl_FragDepth(?!EXT)", .seqAll (chars "gl_FragDepth" ++ [.ahead false (.word "EXT".toList)])⟩

end Pattern

/-! ## The rules -/

namespace Chain

def versionDowngrade : Rule := .substitute
  { name := "VersionDowngrade"
    pattern := .literal "version 300 es".toList
    replacement := "version 100"
    forbids := some (.ofWord "version 300 es")
    description := "Replace the '300 es' version pragma with '100'" }

/-- Renames the cube sampler. A sampler without a name forbids nothing. -/
def cubeSampling (name : String) : Rule := .substitute
  { name := "CubeSamplingRename"
    pattern := .literal name.toList
    replacement := "textureCube"
    forbids := if name = "" then none else some (.literal name.toList)
    description := "Rename every '" ++ name ++ "' to 'textureCube'" }

def textureCall : Rule := .substitute
  { name := "TextureCallRename"
    pattern := .textureCall
    replacement := "texture2D("
    forbids := some .textureCall
    description := "Rewrite every 'texture(' call site to 'texture2D('" }

def fragmentInput : Rule := .substitute
  { name := "FragmentInputQualifier"
    pattern := .inputDeclaration
    replacement := "varying \\g<2>"
    gate := .fragmentOnly
    forbids := some .inputDeclaration
    description := "Fragment stage: 'in <type>' -> 'varying <type>'" }

def vertexInput : Rule := .substitute
  { name := "VertexInputQualifier"
    pattern := .inputDeclaration
    replacement := "attribute \\g<2>"
    gate := .vertexOnly
    forbids := some .inputDeclaration
    description := "Vertex stage: 'in <type>' -> 'attribute <type>'" }

def vertexOutput : Rule := .substitute
  { name := "VertexOutputQualifier"
    pattern := .outputDeclaration
    replacement := "varying \\g<2> \\g<3>;"
    gate := .vertexOnly
    forbids := some .outputDeclaration
    description := "Vertex stage: 'out <type> <ident>;' -> 'varying <type> <ident>;'" }

def drawBuffersPrepend : Rule :=
  .prepend { name := "DrawBuffersDirective", directive := drawBuffersDirective }

def indexedLayoutRemoval : Rule := .substitute
  { name := "FragDataLayoutRemoval"
    pattern := .indexedLayout
    replacement := ""
    forbids := some .indexedLayout
    description := "Delete layout-qualified out_FragData_<N> declarations" }

def indexedRename : Rule := .substitute
  { name := "FragDataRename"
    pattern := .indexedOutput
    replacement := "gl_FragData[\\g<1>]"
    forbids := some .anyIndexedOutput
    description := "Rename out_FragData_<N> to gl_FragData[<N>]" }

/-- The numbered outputs. Declarations go while they still have the old names. -/
def indexedOutputs : Rule :=
  .group "DrawBuffersOutputs" .indexedOutput .fragmentOnly
    ("If out_FragData_<N> is present: enable GL_EXT_draw_buffers, " ++
      "drop its layout declarations, rename to gl_FragData[<N>]")
    [drawBuffersPrepend, indexedLayoutRemoval, indexedRename]

def singleRename : Rule := .substitute
  { name := "FragColorRename"
    pattern := .ofWord "out_FragColor"
    replacement := "gl_FragColor"
    gate := .fragmentOnly
    forbids := some (.ofWord "out_FragColor")
    description := "Rename out_FragColor to gl_FragColor" }

def singleElementRename : Rule := .substitute
  { name := "FragColorIndexedRename"
    pattern := .singleOutputElement
    replacement := "gl_FragColor[\\g<1>]"
    gate := .fragmentOnly
    description := "Rename out_FragColor[<N>] to gl_FragColor[<N>]" }

/-- Deletes the declaration of the single output. It runs after the output has been renamed, so
its pattern does not match any more. -/
def singleLayoutRemoval : Rule := .substitute
  { name := "FragColorLayoutRemoval"
    pattern := .singleLayout
    replacement := ""
    gate := .fragmentOnly
    description := "Delete the location-0 layout declaration of out_FragColor" }

def depthPrepend : Rule :=
  .prepend { name := "FragDepthDirective", directive := fragDepthDirective }

def depthRename : Rule := .substitute
  { name := "FragDepthRename"
    pattern := .ofWord "gl_FragDepth"
    replacement := "gl_FragDepthEXT"
    forbids := some .bareDepth
    description := "Rename gl_FragDepth to gl_FragDepthEXT" }

/-- The depth output. -/
def depthOutput : Rule :=
  .group "FragDepthOutput" (.ofWord "gl_FragDepth") .fragmentOnly
    "If gl_FragDepth is present: enable GL_EXT_frag_depth and rename it to gl_FragDepthEXT"
    [depthPrepend, depthRename]

/-- All rules in order, for a cube sampler of the given name. -/
def forSampler (cubeSampler : String) : List Rule :=
  [versionDowngrade, cubeSampling cubeSampler, textureCall, fragmentInput, vertexInput,
    vertexOutput, indexedOutputs, singleRename, singleElementRename, singleLayoutRemoval,
    depthOutput]

/-- All rules in order. -/
def standard : List Rule := forSampler defaultCubeSampler

/-- The rules that make up groups of the chain. -/
def inGroups : List Rule :=
  [drawBuffersPrepend, indexedLayoutRemoval, indexedRename, depthPrepend, depthRename]

/-- The rule of a name, in the chain or in one of its groups. -/
def ruleNamed? (name : String) : Option Rule := (standard ++ inGroups).find? (·.name = name)

end Chain

/-! ## The spellings read as the expressions -/

example : Pattern.read Pattern.textureCall.spelling = .ok .textureCall := by cbv

example : Pattern.read Pattern.inputDeclaration.spelling = .ok .inputDeclaration := by cbv

example : Pattern.read Pattern.outputDeclaration.spelling = .ok .outputDeclaration := by cbv

example : Pattern.read Pattern.indexedOutput.spelling = .ok .indexedOutput := by cbv

example : Pattern.read Pattern.anyIndexedOutput.spelling = .ok .anyIndexedOutput := by cbv

example : Pattern.read Pattern.indexedLayout.spelling = .ok .indexedLayout := by cbv

example : Pattern.read Pattern.singleOutputElement.spelling = .ok .singleOutputElement := by cbv

example : Pattern.read Pattern.singleLayout.spelling = .ok .singleLayout := by cbv

example : Pattern.read Pattern.bareDepth.spelling = .ok .bareDepth := by cbv

example : Pattern.read "version 300 es" = .ok (.ofWord "version 300 es") := by cbv

end ShaderDowngrade

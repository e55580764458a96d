import ShaderDowngrade.Proofs.Chain.Steps
import ShaderDowngrade.Proofs.Text.LineStart
import ShaderDowngrade.Proofs.Text.Order

/-!
# What the chain exchanges

An exchange is a kind of pieces that a step takes out of a text and a kind that it puts in. Whether
a word survives a step, or can come about by it, is decided by walking through the shapes of the
word and of the pieces; nothing has to be said about the text around them.

Main statements: `Exchanged.occurs_iff`, what is apart from all pieces occurs after a row of steps
exactly if it occurred before; `Exchanged.occurs_of_occurs`, what is apart from the pieces that are
put in does not come about; one `exchanged_…` for each rule of the chain;
`Exchanged.includes_modern_eq_false` and `Exchanged.startsBefore_directives_eq`, what the steps
leave as it is.

## What stays is not exchanged

An input rule looks for the keyword and a type, and the type stays. It is left out of the exchange:
the type may end in a letter with which a word begins, as `float` ends in the letter with which
`texture(` begins, so the shapes alone would not tell that the step keeps such a word.
-/

namespace ShaderDowngrade

/-- What a step takes out of a text, and what it puts in. -/
structure Exchange where
  /-- Shapes of the pieces that are taken out. -/
  taken : List Shape
  /-- Shapes of the pieces that are put in. -/
  put : List Shape

/-- The second text comes from the first by exchanges of the given kinds. -/
def Exchanged (xs : List Exchange) (s t : Text) : Prop :=
  Text.Swaps (Shape.words (xs.flatMap Exchange.taken)) (Shape.words (xs.flatMap Exchange.put)) s t

namespace Exchanged

variable {xs ys : List Exchange} {ws : List Shape} {W : Set Text} {s t u : Text}

theorem mono (h : Exchanged xs s t) (hxs : xs ⊆ ys) : Exchanged ys s t := by
  have subset (f : Exchange → List Shape) : xs.flatMap f ⊆ ys.flatMap f := by
    intro shape hshape
    obtain ⟨x, hx, hshape⟩ := List.mem_flatMap.1 hshape
    exact List.mem_flatMap.2 ⟨x, hxs hx, hshape⟩
  exact Text.Swaps.mono h (Shape.words_subset_words (subset _))
    (Shape.words_subset_words (subset _))

theorem trans (h : Exchanged xs s t) (h' : Exchanged ys t u) : Exchanged (xs ++ ys) s u :=
  Relation.ReflTransGen.trans (h.mono (List.subset_append_left xs ys))
    (h'.mono (List.subset_append_right xs ys))

theorem occurs_of_occurs (h : Exchanged xs s t) (hW : W ⊆ Shape.words ws)
    (hput : Shape.apart ws (xs.flatMap Exchange.put) = true) (ht : Text.Occurs W t) :
    Text.Occurs W s :=
  Text.Swaps.occurs_of_occurs h ((Shape.apart_words hput).mono hW (le_refl _)) ht

theorem occurs (h : Exchanged xs s t)
    (htaken : Text.Apart W (Shape.words (xs.flatMap Exchange.taken))) (hs : Text.Occurs W s) :
    Text.Occurs W t :=
  (Text.Swaps.symm h).occurs_of_occurs htaken hs

/-- What is apart from all pieces is neither made nor broken. -/
theorem occurs_iff (h : Exchanged xs s t) (hW : W ⊆ Shape.words ws)
    (htaken : Shape.apart ws (xs.flatMap Exchange.taken) = true)
    (hput : Shape.apart ws (xs.flatMap Exchange.put) = true) :
    Text.Occurs W t ↔ Text.Occurs W s :=
  Text.Swaps.occurs_iff h ((Shape.apart_words htaken).mono hW (le_refl _))
    ((Shape.apart_words hput).mono hW (le_refl _))

/-- What begins lines still does, if no piece that is taken out ends in a newline. -/
theorem startsLines (h : Exchanged xs s t) (hW : W ⊆ Shape.words ws)
    (htaken : (xs.flatMap Exchange.taken).all (Shape.endsWithout '\n') = true)
    (hput : Shape.apart ws (xs.flatMap Exchange.put) = true) (hs : Text.StartsLines W s) :
    Text.StartsLines W t := by
  refine Text.Swaps.startsLines h ?_ ((Shape.apart_words hput).mono hW (le_refl _)) hs
  rintro x ⟨s, hs, hx⟩
  exact Shape.exists_getLast?_of_endsWithout (List.all_eq_true.1 htaken s hs) hx

theorem includes_eq_false (h : Exchanged xs s t) {w : String}
    (hput : Shape.apart [.ofWord w.toList] (xs.flatMap Exchange.put) = true)
    (hs : Text.includes s w.toList = false) : Text.includes t w.toList = false := by
  by_contra ht
  rw [Bool.not_eq_false, ← Text.occurs_singleton] at ht
  have := h.occurs_of_occurs (Shape.words_ofWord _).ge hput ht
  rw [Text.occurs_singleton, hs] at this
  cases this

theorem includes_eq (h : Exchanged xs s t) {w : String}
    (htaken : Shape.apart [.ofWord w.toList] (xs.flatMap Exchange.taken) = true)
    (hput : Shape.apart [.ofWord w.toList] (xs.flatMap Exchange.put) = true) :
    Text.includes t w.toList = Text.includes s w.toList := by
  rw [Bool.eq_iff_iff, ← Text.occurs_singleton, ← Text.occurs_singleton]
  exact h.occurs_iff (Shape.words_ofWord _).ge htaken hput

theorem startsBefore_eq (h : Exchanged xs s t) {first second : String} (hne : first.toList ≠ [])
    (hapart : Shape.apart [.ofWord second.toList] [.ofWord first.toList] = true)
    (htaken : Shape.apart [.ofWord first.toList, .ofWord second.toList]
      (xs.flatMap Exchange.taken) = true)
    (hput : Shape.apart [.ofWord first.toList, .ofWord second.toList]
      (xs.flatMap Exchange.put) = true) :
    Text.startsBefore first.toList second.toList t =
      Text.startsBefore first.toList second.toList s := by
  have hwords : {first.toList, second.toList} ⊆
      Shape.words [.ofWord first.toList, .ofWord second.toList] := by
    rintro w (rfl | rfl) <;> exact Shape.mem_words_of_mem (by simp)
  have hsecond := Shape.apart_words hapart
  rw [Shape.words_ofWord, Shape.words_ofWord] at hsecond
  rw [Bool.eq_iff_iff, Text.startsBefore_iff_precedes hne hsecond,
    Text.startsBefore_iff_precedes hne hsecond]
  exact Text.Swaps.precedes_iff h ((Shape.apart_words htaken).mono hwords (le_refl _))
    ((Shape.apart_words hput).mono hwords (le_refl _))

end Exchanged

/-! ## Rules as exchanges -/

namespace Rule.Replaces

variable {r : Rule} {stage : Stage} {p : Pattern} {replacement : Match → Text}

/-- A rule that keeps the ends of the matches exchanges their beginnings. -/
theorem exchanged (h : r.Replaces stage p replacement) {x : Exchange}
    (hx : ∀ m, p.expr.Spells m.text m.groups → ∃ a ∈ Shape.words x.taken, ∃ b ∈ Shape.words x.put,
      ∃ k, m.text = a ++ k ∧ replacement m = b ++ k) (t : Text) :
    Exchanged [x] t (r.output stage t) := by
  rw [Exchanged, List.flatMap_singleton, List.flatMap_singleton]
  exact (h.rewrites t).swaps hx

theorem exchanged_whole (h : r.Replaces stage p replacement) {x : Exchange}
    (htaken : p.shapes ⊆ x.taken)
    (hput : ∀ m, p.expr.Spells m.text m.groups → replacement m ∈ Shape.words x.put) (t : Text) :
    Exchanged [x] t (r.output stage t) :=
  h.exchanged (fun m hm ↦ ⟨m.text, Shape.words_subset_words htaken (p.words_subset ⟨_, hm⟩),
    replacement m, hput m hm, [], by simp, by simp⟩) t

/-- The pattern is gone if it is apart from what is put in. -/
theorem not_occurs (h : r.Replaces stage p replacement) {ys : List Shape}
    (hput : ∀ m, p.expr.Spells m.text m.groups → replacement m ∈ Shape.words ys)
    (hapart : Shape.apart p.shapes ys = true) (hne : p.shapes.all (!·.isEmpty) = true) (t : Text) :
    ¬ Text.Occurs p.words (r.output stage t) :=
  (h.rewrites t).not_occurs hput
    ((Shape.reachesBy_words hapart).mono p.words_subset (le_refl _))
    ((Shape.outside_words (Bool.and_eq_true_iff.1 hapart).2).mono p.words_subset (le_refl _))
    (Pattern.nil_notMem_words hne)

/-- A word is gone after a rule that puts something apart from it in its place. -/
theorem includes_eq_false {w v : String} (h : r.Replaces stage p fun _ ↦ v.toList)
    (hp : p.expr = .word w.toList) (hapart : Shape.apart p.shapes [.ofWord v.toList] = true)
    (hne : p.shapes.all (!·.isEmpty) = true) (t : Text) :
    Text.includes (r.output stage t) w.toList = false := by
  have := h.not_occurs (fun _ _ ↦ by simp) hapart hne t
  rwa [Pattern.words_of_expr_eq_word hp, Text.occurs_singleton, Bool.not_eq_true] at this

/-- Where the pattern is not apart from what is put in, it comes about exactly behind the stubs that
the replacements complete. -/
theorem occurs_iff_stub (h : r.Replaces stage p replacement) (ys : List Shape) {stubs : List Shape}
    (hstubs : Shape.stubs p.shapes ys = stubs)
    (hput : ∀ m, p.expr.Spells m.text m.groups → replacement m ∈ Shape.words ys)
    (hne : p.shapes.all (!·.isEmpty) = true) (hout : Shape.outside p.shapes ys = true)
    (hfree : Shape.separate (Shape.joined (stubs.flatMap Shape.tails) p.shapes) p.shapes = true)
    (hnest : Shape.outside (Shape.joined stubs p.shapes) p.shapes = true)
    (hjoin : ∀ k ∈ Shape.words stubs, ∀ m, p.expr.Spells m.text m.groups →
      ∃ w ∈ p.words, w <+: k ++ replacement m) (t : Text) :
    Text.Occurs p.words (r.output stage t) ↔
      Text.Occurs (Set.image2 (· ++ ·) (Shape.words stubs) p.words) t := by
  subst hstubs
  have hnil := Pattern.nil_notMem_words hne
  constructor
  · exact (h.rewrites t).occurs_stub_of_occurs hput
      ((Shape.reachesBy_stubs p.shapes ys).mono p.words_subset (le_refl _))
      ((Shape.outside_words hout).mono p.words_subset (le_refl _)) hnil
  · refine (h.rewrites t).occurs_of_stub hnil ?_ ?_ hjoin
    · rintro k ⟨s, hs, hk⟩ x hx q r rfl hr z hz
      obtain ⟨s', hs', hfits⟩ := Shape.exists_mem_tails hk hr
      obtain ⟨u, hu, hux⟩ := Shape.append_mem_words
        ⟨s', List.mem_flatMap.2 ⟨s, hs, hs'⟩, hfits⟩ (p.words_subset hx)
      obtain ⟨v, hv, hvz⟩ := p.words_subset hz
      exact Shape.not_comparable_of_separate hfree hu hv hux hvz
    · refine (Shape.outside_words hnest).mono ?_ p.words_subset
      rintro _ ⟨k, hk, x, hx, rfl⟩
      exact Shape.append_mem_words hk (p.words_subset hx)

end Rule.Replaces

/-! ## The exchanges of the chain -/

namespace Exchange

/-- One word for another. -/
def word (w v : String) : Exchange := ⟨[.ofWord w.toList], [.ofWord v.toList]⟩

theorem mem_put_word (w v : String) : v.toList ∈ Shape.words (word w v).put := by
  simp [word]

def version : Exchange := word "version 300 es" "version 100"

def cube : Exchange := word "czm_textureCube" "textureCube"

def sampling : Exchange := word "texture(" "texture2D("

/-- The keyword of an input with the blanks behind it, for another keyword. -/
def input (keyword : String) : Exchange :=
  ⟨Shape.joined [.ofWord "in".toList] Pattern.blanks.shapes, [.ofWord keyword.toList]⟩

/-- The same exchange together with the type, which stays. -/
def typedInput (keyword : String) : Exchange :=
  ⟨Pattern.inputDeclaration.shapes,
    Shape.joined [.ofWord keyword.toList] Pattern.valueType.shapes⟩

/-- What stands before the name of an output. -/
def output : Exchange :=
  ⟨Shape.joined (Shape.joined (Shape.joined [.ofWord "out".toList] Pattern.blanks.shapes)
      Pattern.valueType.shapes) Pattern.blanks.shapes,
    Shape.joined (Shape.joined [.ofWord "varying ".toList] Pattern.valueType.shapes)
      [.ofWord " ".toList]⟩

def indexed : Exchange :=
  ⟨Pattern.indexedOutput.shapes,
    Shape.joined (Shape.joined [.ofWord "gl_FragData[".toList] Pattern.digits.shapes)
      [.ofWord "]".toList]⟩

def single : Exchange := word "out_FragColor" "gl_FragColor"

def depth : Exchange := word "gl_FragDepth" "gl_FragDepthEXT"

/-- A directive that is put in front of the text. -/
def directive (d : String) : Exchange :=
  ⟨[[]], [.ofWord (d.toList ++ directiveSeparator)]⟩

/-- What the steps behind the cube sampler exchange. -/
def later : List Exchange :=
  [.sampling, .input "attribute ", .output, .input "varying ", .directive drawBuffersDirective,
    .indexed, .single, .directive fragDepthDirective, .depth]

/-- What is exchanged without any directive, but for the numbered outputs and the depth output. -/
def undirected : List Exchange :=
  [.version, .cube, .sampling, .input "attribute ", .output, .input "varying ", .single]

end Exchange

namespace Chain

variable {stage : Stage}

open Shape (append_mem_words)

theorem mem_put_typedInput (keyword : String) {m : Match}
    (h : Pattern.inputDeclaration.expr.Spells m.text m.groups) :
    keyword.toList ++ m.group 2 ∈ Shape.words (Exchange.typedInput keyword).put := by
  obtain ⟨b, -, htype, -⟩ := Pattern.spells_inputDeclaration h
  exact append_mem_words (by simp) (Expr.language_subset _ htype)

theorem mem_put_indexed {m : Match} (h : Pattern.indexedOutput.expr.Spells m.text m.groups) :
    "gl_FragData[".toList ++ m.group 1 ++ "]".toList ∈ Shape.words Exchange.indexed.put :=
  append_mem_words (append_mem_words (by simp)
    (Expr.language_subset _ (Pattern.spells_indexedOutput h).1)) (by simp)

theorem exchanged_versionDowngrade (t : Text) :
    Exchanged [.version] t (versionDowngrade.output stage t) :=
  replaces_versionDowngrade.exchanged_whole (fun _ h ↦ h) (fun _ _ ↦ Exchange.mem_put_word ..) t

theorem exchanged_cubeSampling (t : Text) :
    Exchanged [.cube] t ((cubeSampling defaultCubeSampler).output stage t) :=
  replaces_cubeSampling.exchanged_whole (fun _ h ↦ h) (fun _ _ ↦ Exchange.mem_put_word ..) t

theorem exchanged_textureCall (t : Text) :
    Exchanged [.sampling] t (textureCall.output stage t) :=
  replaces_textureCall.exchanged_whole (fun _ h ↦ h) (fun _ _ ↦ Exchange.mem_put_word ..) t

theorem exchanged_singleRename (t : Text) :
    Exchanged [.single] t (singleRename.output .fragment t) :=
  replaces_singleRename.exchanged_whole (fun _ h ↦ h) (fun _ _ ↦ Exchange.mem_put_word ..) t

theorem exchanged_depthRename (t : Text) :
    Exchanged [.depth] t (depthRename.output stage t) :=
  replaces_depthRename.exchanged_whole (fun _ h ↦ h) (fun _ _ ↦ Exchange.mem_put_word ..) t

/-- A rule that replaces the keyword of inputs, in two readings: the type stays. -/
theorem exchanged_input {r : Rule} {keyword : String}
    (h : r.Replaces stage .inputDeclaration fun m ↦ keyword.toList ++ m.group 2) (t : Text) :
    Exchanged [.input keyword] t (r.output stage t) ∧
      Exchanged [.typedInput keyword] t (r.output stage t) := by
  constructor
  · refine h.exchanged (fun m hm ↦ ?_) t
    obtain ⟨b, hb, -, htext⟩ := Pattern.spells_inputDeclaration hm
    exact ⟨"in".toList ++ b, append_mem_words (by simp) (Expr.language_subset _ hb),
      keyword.toList, by simp [Exchange.input], m.group 2, htext, rfl⟩
  · exact h.exchanged_whole (fun _ h ↦ h) (fun _ hm ↦ mem_put_typedInput keyword hm) t

theorem exchanged_vertexOutput (t : Text) :
    Exchanged [.output] t (vertexOutput.output .vertex t) := by
  refine replaces_vertexOutput.exchanged (fun m hm ↦ ?_) t
  obtain ⟨b, hb, b', hb', htype, -, htext⟩ := Pattern.spells_outputDeclaration hm
  have hblank := Expr.language_subset _ hb
  have hblank' := Expr.language_subset _ hb'
  have htype := Expr.language_subset _ htype
  refine ⟨"out".toList ++ b ++ m.group 2 ++ b', ?_, "varying ".toList ++ m.group 2 ++ " ".toList,
    ?_, m.group 3 ++ ";".toList, ?_, by simp⟩
  · exact append_mem_words (append_mem_words (append_mem_words (by simp) hblank) htype) hblank'
  · exact append_mem_words (append_mem_words (by simp) htype) (by simp)
  · simp [htext]

theorem exchanged_indexedRename (t : Text) :
    Exchanged [.indexed] t (indexedRename.output stage t) :=
  replaces_indexedRename.exchanged_whole (fun _ h ↦ h) (fun _ hm ↦ mem_put_indexed hm) t

theorem exchanged_prependDirective (d : String) (t : Text) :
    Exchanged [.directive d] t (prependDirective d t) := by
  have hnil : [] ∈ Shape.words [[]] := ⟨[], List.mem_singleton_self _, .done⟩
  have hput : d.toList ++ directiveSeparator ∈ Shape.words (Exchange.directive d).put := by
    simp [Exchange.directive]
  exact .single (Text.Swap.mk [] t hnil hput)

end Chain

/-! ## What the steps leave as it is -/

/-- The words that the first rules replace. -/
def modernWords : List String := ["version 300 es", defaultCubeSampler, "texture("]

/-- Shapes of those words. -/
def modernShapes : List Shape := modernWords.map fun w ↦ .ofWord w.toList

theorem singleton_subset_modernShapes {w : String} (hw : w ∈ modernWords) :
    {w.toList} ⊆ Shape.words modernShapes :=
  Set.singleton_subset_iff.2 (Shape.mem_words_of_mem (List.mem_map_of_mem hw))

theorem modernShapes_apart :
    Shape.apart modernShapes (Exchange.later.flatMap Exchange.put) = true := by
  decide +kernel

namespace Exchanged

variable {xs : List Exchange} {s t : Text}

theorem includes_modern_eq_false (h : Exchanged xs s t) (hxs : xs ⊆ Exchange.later) {w : String}
    (hw : w ∈ modernWords) (hs : Text.includes s w.toList = false) :
    Text.includes t w.toList = false := by
  rw [← Bool.not_eq_true, ← Text.occurs_singleton] at hs ⊢
  exact fun ht ↦ hs ((h.mono hxs).occurs_of_occurs (singleton_subset_modernShapes hw)
    modernShapes_apart ht)

theorem startsBefore_directives_eq (h : Exchanged xs s t) (hxs : xs ⊆ Exchange.undirected) :
    Text.startsBefore drawBuffersDirective.toList fragDepthDirective.toList t =
      Text.startsBefore drawBuffersDirective.toList fragDepthDirective.toList s := by
  have hapart : let directives : List Shape :=
        [.ofWord drawBuffersDirective.toList, .ofWord fragDepthDirective.toList]
      Shape.apart directives.tail [.ofWord drawBuffersDirective.toList] = true ∧
        Shape.apart directives (Exchange.undirected.flatMap Exchange.taken) = true ∧
        Shape.apart directives (Exchange.undirected.flatMap Exchange.put) = true := by
    decide +kernel
  exact (h.mono hxs).startsBefore_eq (by decide) hapart.1 hapart.2.1 hapart.2.2

end Exchanged

end ShaderDowngrade

import Mathlib.Data.String.Basic
import Mathlib.Tactic.SplitIfs
import ShaderDowngrade.Proofs.Text.Lowercase
import ShaderDowngrade.Stage

/-!
# The stage that a path tells

Of a written path only the last component tells a stage, where empty components and dots do not
count. It tells one if it is a name, a dot and one of the extensions of the stage, whatever the
case of the letters. A hidden file whose name is nothing but an extension tells none.

Main statements: `Path.suffixOf_append` and `Path.exists_of_suffixOf_ne_nil`, what the suffix of a
name is; `Stage.ofPath?_laws`, the stage in terms of the written path.

## Why case is no matter of Unicode

The suffix is compared in lower case, which is that of Unicode. But the Kelvin sign is the only
character beyond ASCII whose lower case is an ASCII letter, and no extension has a `k` in it. So it
comes to the same to fold ASCII letters only.
-/

namespace ShaderDowngrade

namespace Path

variable {d n p name stem ext : Text}

/-! ## The last component -/

theorem splitSlashes_eq_splitOn (p : Text) : splitSlashes p = p.splitOn '/' := by
  rw [List.splitOn_eq_splitOnP]
  induction p with
  | nil => rfl
  | cons c p ih =>
    obtain ⟨w, ws, h⟩ := List.exists_cons_of_ne_nil (splitSlashes_ne_nil p)
    rw [List.splitOnP_cons_eq_if_modifyHead, ← ih, splitSlashes, h]
    by_cases hc : c = '/' <;> simp [hc]

/-- The last component of a written path. Those that are empty or a dot do not count. -/
def lastComponent? (p : Text) : Option Text :=
  ((p.splitOn '/').filter fun w ↦ w ≠ [] ∧ w ≠ ['.']).getLast?

theorem getLast?_components (p : Text) : (ofChars p).components.getLast? = lastComponent? p := by
  rw [lastComponent?, ← splitSlashes_eq_splitOn]
  rfl

theorem lastComponent?_append_slash (d n : Text) :
    lastComponent? (d ++ '/' :: n) = (lastComponent? n).or (lastComponent? d) := by
  rw [lastComponent?, List.splitOn_eq_splitOnP,
    List.splitOnP_append_cons (p := (· == '/')) d n (by rfl), List.filter_append,
    List.getLast?_append]
  rfl

/-! ## The suffix of a name -/

theorem suffixOf_append (hstem : stem ≠ []) (hext : ext ≠ []) (hdot : '.' ∉ ext) :
    suffixOf (stem ++ '.' :: ext) = '.' :: ext := by
  have hback : (stem ++ '.' :: ext).reverse.takeWhile (· != '.') = ext.reverse := by
    have hpass : ∀ c ∈ ext.reverse, (c != '.') = true := fun c hc ↦
      bne_iff_ne.2 fun h ↦ hdot (h ▸ List.mem_reverse.1 hc)
    rw [List.reverse_append, List.reverse_cons, List.append_assoc,
      List.takeWhile_append_of_pos hpass]
    simp
  have hlength := List.length_pos_iff.2 hstem
  rw [suffixOf, hback, if_neg, List.reverse_reverse]
  simp only [List.isEmpty_iff, List.reverse_eq_nil_iff, hext, List.length_append,
    List.length_cons, List.length_reverse, false_or]
  omega

theorem exists_of_suffixOf_ne_nil (h : suffixOf name ≠ []) :
    ∃ stem ext, name = stem ++ '.' :: ext ∧ stem ≠ [] ∧ suffixOf name = '.' :: ext := by
  generalize hback : name.reverse.takeWhile (· != '.') = back
  rw [suffixOf, hback] at h ⊢
  by_cases hnone : back.isEmpty = true ∨ name.length - back.length ≤ 1
  · exact absurd (if_pos hnone) h
  · rw [if_neg hnone]
    rw [not_or, Nat.not_le] at hnone
    have hparts : back ++ name.reverse.dropWhile (· != '.') = name.reverse := by
      rw [← hback, List.takeWhile_append_dropWhile]
    have hlength := congrArg List.length hparts
    rw [List.length_append, List.length_reverse] at hlength
    -- the rest of the reversed name begins with the dot
    have hne : name.reverse.dropWhile (· != '.') ≠ [] := fun hnil ↦ by
      rw [hnil, List.length_nil] at hlength
      omega
    have hdot := List.head_dropWhile_not (· != '.') hne
    obtain ⟨c, more, hrest⟩ := List.exists_cons_of_ne_nil hne
    simp only [hrest, List.head_cons, bne_eq_false_iff_eq] at hdot
    subst hdot
    rw [hrest] at hparts hlength
    refine ⟨more.reverse, back.reverse, ?_, ?_, rfl⟩
    · rw [← List.reverse_reverse name, ← hparts]
      simp
    · rw [Ne, List.reverse_eq_nil_iff]
      rintro rfl
      rw [List.length_singleton] at hlength
      omega

end Path

namespace Stage

variable {stage : Stage} {p ext suffix : Text}

/-- The extensions of file names of each stage. -/
def extensions : Stage → List String
  | .vertex => ["vert", "vs", "vsh"]
  | .fragment => ["frag", "fs", "fsh"]

/-- The last component of the path is a name that is not empty, a dot, and an extension of the
stage up to the case of ASCII letters. -/
def ToldBy (stage : Stage) (p : Text) : Prop :=
  ∃ stem ext : Text, Path.lastComponent? p = some (stem ++ '.' :: ext) ∧ stem ≠ [] ∧
    String.ofList (ext.map Char.toLower) ∈ stage.extensions

theorem ofSuffix?_eq_some_iff :
    ofSuffix? suffix = some stage ↔ String.ofList (Text.lowercase suffix) ∈ stage.suffixes := by
  have hdisjoint : ∀ w ∈ suffixes .vertex, w ∉ suffixes .fragment := by decide
  rw [ofSuffix?]
  split_ifs with hfragment hvertex
  · cases stage with
    | vertex => exact iff_of_false (by simp) fun hvertex ↦ hdisjoint _ hvertex hfragment
    | fragment => exact iff_of_true rfl hfragment
  · cases stage with
    | vertex => exact iff_of_true rfl hvertex
    | fragment => exact iff_of_false (by simp) hfragment
  · cases stage with
    | vertex => exact iff_of_false (by simp) hvertex
    | fragment => exact iff_of_false (by simp) hfragment

theorem lowercase_mem_suffixes_iff : String.ofList (Text.lowercase suffix) ∈ stage.suffixes ↔
    String.ofList (suffix.map Char.toLower) ∈ stage.suffixes := by
  have hwords : (stage.suffixes.all fun w ↦
      w.toList.all fun c ↦ c.toNat < 0x80 && c != 'k') = true := by
    cases stage <;> rfl
  simp only [List.all_eq_true, Bool.and_eq_true, decide_eq_true_eq, bne_iff_ne] at hwords
  have hsame {w : String} (hw : w ∈ stage.suffixes) : String.ofList (Text.lowercase suffix) = w ↔
      String.ofList (suffix.map Char.toLower) = w := by
    rw [String.ofList_eq, String.ofList_eq, Text.lowercase_eq_iff (hwords w hw)]
  constructor
  · exact fun h ↦ (hsame h).1 rfl ▸ h
  · exact fun h ↦ (hsame h).2 rfl ▸ h

theorem mem_suffixes_cons_iff {u : Text} :
    String.ofList ('.' :: u) ∈ stage.suffixes ↔ String.ofList u ∈ stage.extensions := by
  have hsuffixes : stage.suffixes = stage.extensions.map ("." ++ ·) := by
    cases stage <;> decide
  have hcons (w : String) : "." ++ w = String.ofList ('.' :: u) ↔ w = String.ofList u := by
    rw [eq_comm, String.ofList_eq, eq_comm, String.toList_append, @eq_comm _ w, String.ofList_eq,
      @eq_comm _ u]
    exact List.cons_inj_right '.'
  simp only [hsuffixes, List.mem_map, hcons, exists_eq_right]

theorem ofSuffix?_cons_eq_some_iff : ofSuffix? ('.' :: ext) = some stage ↔
    String.ofList (ext.map Char.toLower) ∈ stage.extensions := by
  rw [ofSuffix?_eq_some_iff, lowercase_mem_suffixes_iff, List.map_cons]
  exact mem_suffixes_cons_iff

theorem dot_notMem_of_mem_extensions
    (h : String.ofList (ext.map Char.toLower) ∈ stage.extensions) : ext ≠ [] ∧ '.' ∉ ext := by
  have hletters : ∀ w ∈ stage.extensions, w.toList ≠ [] ∧ '.' ∉ w.toList := by
    cases stage <;> decide
  obtain ⟨hne, hdot⟩ := hletters _ h
  rw [String.toList_ofList] at hne hdot
  exact ⟨mt List.map_eq_nil_iff.2 hne, fun hmem ↦ hdot (List.mem_map.2 ⟨'.', hmem, rfl⟩)⟩

theorem ofPath?_eq_some_iff : ofPath? (.ofChars p) = some stage ↔ stage.ToldBy p := by
  have hname : (Path.ofChars p).name = (Path.lastComponent? p).getD [] := by
    rw [Path.name, Path.getLast?_components]
  have hempty : ofSuffix? [] = none := by decide
  rw [ofPath?, Path.suffix, hname]
  constructor
  · intro h
    have hne : Path.suffixOf ((Path.lastComponent? p).getD []) ≠ [] := fun hnil ↦ by
      rw [hnil, hempty] at h
      cases h
    obtain ⟨stem, ext, hlast, hstem, hsuffix⟩ := Path.exists_of_suffixOf_ne_nil hne
    rw [hsuffix, ofSuffix?_cons_eq_some_iff] at h
    refine ⟨stem, ext, ?_, hstem, h⟩
    cases hcomponent : Path.lastComponent? p with
    | none =>
      rw [hcomponent] at hlast
      simp at hlast
    | some n =>
      rw [hcomponent] at hlast
      exact congrArg some hlast
  · rintro ⟨stem, ext, hlast, hstem, hext⟩
    obtain ⟨hne, hdot⟩ := dot_notMem_of_mem_extensions hext
    rw [hlast, Option.getD_some, Path.suffixOf_append hstem hne hdot, ofSuffix?_cons_eq_some_iff]
    exact hext

theorem ofPath?_eq_of_lastComponent?_eq {q : Text}
    (h : Path.lastComponent? p = Path.lastComponent? q) :
    ofPath? (.ofChars p) = ofPath? (.ofChars q) := by
  refine Option.ext fun stage ↦ ?_
  rw [ofPath?_eq_some_iff, ofPath?_eq_some_iff, ToldBy, ToldBy, h]

/-- **The stage that a written path tells.** It is told by the last component alone, which is a
name, a dot and an extension up to the case of ASCII letters; other paths tell none. What stands
before a slash matters only if no component stands behind it, so neither a slash at the end nor one
with a dot makes a difference. -/
theorem ofPath?_laws :
    (∀ stage p, ofPath? (.ofChars p) = some stage ↔ stage.ToldBy p) ∧
      (∀ p, ofPath? (.ofChars p) = none ↔ ∀ stage : Stage, ¬ stage.ToldBy p) ∧
      (∀ d n, ofPath? (.ofChars (d ++ '/' :: n)) =
        if (Path.lastComponent? n).isSome then ofPath? (.ofChars n) else ofPath? (.ofChars d)) ∧
      ∀ p, ofPath? (.ofChars (p ++ "/".toList)) = ofPath? (.ofChars p) ∧
        ofPath? (.ofChars (p ++ "/.".toList)) = ofPath? (.ofChars p) := by
  have hbehind (d n : Text) (h : Path.lastComponent? n = none) :
      ofPath? (.ofChars (d ++ '/' :: n)) = ofPath? (.ofChars d) :=
    ofPath?_eq_of_lastComponent?_eq (by rw [Path.lastComponent?_append_slash, h, Option.none_or])
  refine ⟨fun stage p ↦ ofPath?_eq_some_iff, fun p ↦ ?_, fun d n ↦ ?_, fun p ↦ ⟨?_, ?_⟩⟩
  · rw [Option.eq_none_iff_forall_ne_some]
    exact forall_congr' fun stage ↦ not_congr ofPath?_eq_some_iff
  · cases h : Path.lastComponent? n with
    | none => exact hbehind d n h
    | some w =>
      refine ofPath?_eq_of_lastComponent?_eq ?_
      rw [Path.lastComponent?_append_slash, h, Option.some_or]
  · exact hbehind p [] (by decide)
  · exact hbehind p ['.'] (by decide)

/-- A hidden file whose name is an extension tells no stage, whatever directory it is in. -/
example : ofPath? (.ofChars "lit.d/main..VSH/.".toList) = some .vertex ∧
    ofPath? (.ofChars "lit.vert/.frag".toList) = none := by decide +kernel

end Stage

end ShaderDowngrade

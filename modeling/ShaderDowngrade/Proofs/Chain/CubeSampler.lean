import Mathlib.Data.List.Infix
import ShaderDowngrade.Proofs.Chain.Early
import ShaderDowngrade.Proofs.Rule.Literal

/-!
# Cube samplers of any name

The cube sampler is renamed from a name that is given. What is put in may complete the name again,
and whether it can is a question about the ends and beginnings of the two words: if the name does
not overlap `textureCube`, and neither word is in the other, then the name is gone, whatever the
text. The name that is used unless another one is given ends in `textureCube`, and comes about again
exactly behind the beginning of itself.

Main statements: `Text.reachesBy_of_not_overlaps` and `Text.outside_of_not_overlaps`, when one word
can neither lead into another nor begin in it; `Rule.cubeSampling_removes_name`, what becomes of the
name.
-/

namespace ShaderDowngrade

namespace Text

variable {w v : Text}

/-- Some end of the first word is a beginning of the second. -/
def Overlaps (w v : Text) : Prop := ∃ s, s ≠ [] ∧ s <:+ w ∧ s <+: v

instance (w v : Text) : Decidable (Overlaps w v) :=
  decidable_of_iff (∃ s ∈ w.tails, s ≠ [] ∧ s <+: v) <|
    exists_congr fun s ↦ by rw [List.mem_tails, and_left_comm]

theorem reachesBy_of_not_overlaps (hin : ¬ v <:+: w) (hover : ¬ Overlaps w v) :
    ReachesBy ∅ {w} {v} := by
  rintro _ rfl _ rfl p q rfl - hq (hpre | hpre)
  · exact hover ⟨q, hq, List.suffix_append p q, hpre⟩
  · exact hin (hpre.isInfix.trans (List.suffix_append p q).isInfix)

theorem outside_of_not_overlaps (hin : ¬ w <:+: v) (hover : ¬ Overlaps v w) :
    Outside {w} {v} := by
  rintro _ rfl _ rfl p q rfl hq (hpre | hpre)
  · exact hover ⟨q, hq, List.suffix_append p q, hpre⟩
  · exact hin (hpre.isInfix.trans (List.suffix_append p q).isInfix)

end Text

namespace Rule

variable {name : String} {stage : Stage}

theorem replaces_cubeSampling_of_ne (hname : name ≠ "") : (Chain.cubeSampling name).Replaces stage
    (.literal name.toList) fun _ ↦ "textureCube".toList := by
  have hne := Pattern.nil_notMem_words_literal (String.toList_eq_nil_iff.not.2 hname)
  have hnew : '\\' ∉ "textureCube".toList := by decide
  have hexpand : Template.expand ("textureCube".toList.map .char) = fun _ ↦ "textureCube".toList :=
    funext (Template.expand_map_char _)
  rw [← hexpand]
  exact Substitution.Regular.replaces ⟨Template.read_of_notMem hnew _, Expr.plain_word _, hne⟩ rfl

/-- A name that has nothing to do with what takes its place is gone. -/
theorem includes_cubeSampling_eq_false (hname : name ≠ "")
    (hin : ¬ name.toList <:+: "textureCube".toList) (hout : ¬ "textureCube".toList <:+: name.toList)
    (hinto : ¬ Text.Overlaps name.toList "textureCube".toList)
    (hfrom : ¬ Text.Overlaps "textureCube".toList name.toList) (t : Text) :
    Text.includes ((Chain.cubeSampling name).output stage t) name.toList = false := by
  have hreplaces : (Chain.cubeSampling name).Replaces stage (.literal name.toList)
      fun _ ↦ "textureCube".toList := replaces_cubeSampling_of_ne hname
  have hgone := (hreplaces.rewrites t).not_occurs (fun _ _ ↦ Set.mem_singleton _)
    (Pattern.words_literal name.toList ▸ Text.reachesBy_of_not_overlaps hout hinto)
    (Pattern.words_literal name.toList ▸ Text.outside_of_not_overlaps hin hfrom)
    (Pattern.nil_notMem_words_literal (String.toList_eq_nil_iff.not.2 hname))
  rwa [Pattern.words_literal, Text.occurs_singleton, Bool.not_eq_true] at hgone

/-- **What becomes of the name of the cube sampler.** A name that has nothing to do with what takes
its place is gone, and the rule finds nothing wrong. The name that is used unless another one is
given is there again exactly if the text had it behind the beginning of itself, and then the rule
reports it. -/
theorem cubeSampling_removes_name :
    (∀ name : String, name ≠ "" →
      ¬ "textureCube".toList <:+: name.toList → ¬ name.toList <:+: "textureCube".toList →
      ¬ Text.Overlaps name.toList "textureCube".toList →
      ¬ Text.Overlaps "textureCube".toList name.toList →
      ∀ stage outer t,
        ((Chain.cubeSampling name).apply stage outer t).fault = none ∧
        Text.includes ((Chain.cubeSampling name).apply stage outer t).text name.toList = false ∧
        (Chain.cubeSampling name).violations stage
          ((Chain.cubeSampling name).apply stage outer t).text = []) ∧
      ∀ stage outer t,
        ((Chain.cubeSampling defaultCubeSampler).apply stage outer t).fault = none ∧
        Text.includes ((Chain.cubeSampling defaultCubeSampler).apply stage outer t).text
          "czm_textureCube".toList = Text.includes t "czm_czm_textureCube".toList ∧
        (Chain.cubeSampling defaultCubeSampler).violations stage
            ((Chain.cubeSampling defaultCubeSampler).apply stage outer t).text =
          if Text.includes t "czm_czm_textureCube".toList = true then
            [.patternPresent "CubeSamplingRename" "czm_textureCube"] else [] := by
  refine ⟨fun name hname hout hin hinto hfrom stage outer t ↦ ?_, fun stage outer t ↦ ?_⟩
  · obtain ⟨htext, hfault⟩ := apply_outer (Chain.cubeSampling name) stage outer t
    have hgone : Text.includes ((Chain.cubeSampling name).output stage t) name.toList = false :=
      includes_cubeSampling_eq_false hname hin hout hinto hfrom t
    refine ⟨?_, by rw [htext, hgone], ?_⟩
    · rw [hfault, (replaces_cubeSampling_of_ne hname).applicable t]
    · rw [htext]
      by_contra hne
      have hstays := ((violations_cubeSampling_ne_nil_iff name stage _).1 hne).2
      rw [hgone] at hstays
      cases hstays
  · obtain ⟨htext, hfault⟩ := apply_outer (Chain.cubeSampling defaultCubeSampler) stage outer t
    refine ⟨?_, by rw [htext, Chain.includes_cubeSampling], ?_⟩
    · rw [hfault, Chain.replaces_cubeSampling.applicable t]
    · rw [htext, Chain.violations_cubeSampling]

/-- A name that overlaps itself, between two that share their middle. -/
theorem cubeSampling_removes_name_overlapping :
    let name := "s+s"
    (name ≠ "" ∧ ¬ "textureCube".toList <:+: name.toList ∧
      ¬ name.toList <:+: "textureCube".toList ∧
      ¬ Text.Overlaps name.toList "textureCube".toList ∧
      ¬ Text.Overlaps "textureCube".toList name.toList) ∧
    ((Chain.cubeSampling name).apply .vertex "" "s+s+s".toList).text = "textureCube+s".toList ∧
      Text.includes ((Chain.cubeSampling name).apply .vertex "" "s+s+s".toList).text
        name.toList = false := by
  have hname : "s+s" ≠ "" := by decide
  have hout : ¬ "textureCube".toList <:+: "s+s".toList := by decide
  have hin : ¬ "s+s".toList <:+: "textureCube".toList := by decide
  have hinto : ¬ Text.Overlaps "s+s".toList "textureCube".toList := by decide
  have hfrom : ¬ Text.Overlaps "textureCube".toList "s+s".toList := by decide
  refine ⟨⟨hname, hout, hin, hinto, hfrom⟩, by cbv, ?_⟩
  exact (cubeSampling_removes_name.1 "s+s" hname hout hin hinto hfrom .vertex "" _).2.1

end Rule

end ShaderDowngrade

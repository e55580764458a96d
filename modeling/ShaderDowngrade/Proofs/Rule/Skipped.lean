import ShaderDowngrade.Proofs.Rule.Header
import ShaderDowngrade.Proofs.Rule.Trace

/-!
# Skipped rules

A rule that does not run at the stage, or finds nothing, leaves the text as it is and records why.
The rules behind it get the text that they would get anyway, so it could as well be left out of the
list: all that is missing then is what it records.

Main statements: `Rule.skipped_of_not_admits` and `Rule.skipped_of_not_occurs`, when rules are
skipped; `Rule.applyAll_around_skipped`, a list with skipped rules and the list without them.

## What tells the entries apart

The entries of skipped rules stand among those of the others. An entry goes by the name of its rule,
so if the names differ, the entries of the other rules are those that are there without the skipped
ones.
-/

namespace ShaderDowngrade

open Executed (heading)

namespace Rule

variable {r : Rule} {rs qs ps : List Rule} {stage : Stage} {outer : String} {t : Text} {skip : Skip}

/-- The rule leaves the text as it is, and records only why. -/
def Skipped (r : Rule) (stage : Stage) (t : Text) (skip : Skip) : Prop :=
  ∀ outer, r.apply stage outer t = ⟨[{ heading r outer with skip }], t, none⟩

theorem skipped_of_not_admits (h : r.admits stage = false) : r.Skipped stage t .stageMismatch :=
  fun outer ↦ apply_of_not_admits h outer t

theorem skipped_of_not_occurs {r : Substitution} {template : Template}
    (hregular : r.Regular template) (hgate : r.gate.admits stage = true)
    (h : ¬ Text.Occurs r.pattern.words t) : (substitute r).Skipped stage t .noMatch := by
  intro outer
  have hcount : r.pattern.count t = 0 :=
    (Pattern.count_eq_zero_iff _ _).2 ((Pattern.occursIn_eq_false_iff hregular.plain t).2 h)
  have htext : r.pattern.replaceWith template.expand t = t := by
    rw [← Substitution.output_of_read hregular.read hgate]
    exact ((hregular.replaces hgate).rewrites t).eq_of_not_occurs h
  rw [apply, Substitution.apply, if_pos hgate, hregular.read]
  dsimp only [Pattern.substitute]
  rw [htext, hcount]
  rfl

theorem applyAll_of_skipped (h : ∀ r ∈ rs, r.Skipped stage t skip) :
    applyAll rs stage outer t = ⟨rs.map fun r ↦ { heading r outer with skip }, t, none⟩ := by
  induction rs with
  | nil => rw [applyAll, List.map_nil]
  | cons r rs ih =>
    obtain ⟨hr, hrs⟩ := List.forall_mem_cons.1 h
    rw [applyAll, hr outer, Run.andThen_of_ok, ih hrs, List.map_cons, List.singleton_append]

theorem applyAll_append_of_fault (hqs : (applyAll qs stage outer t).fault = none) :
    applyAll (qs ++ ps) stage outer t =
      { applyAll ps stage outer (applyAll qs stage outer t).text with
        entries := (applyAll qs stage outer t).entries ++
          (applyAll ps stage outer (applyAll qs stage outer t).text).entries } := by
  rw [applyAll_append, Run.andThen, hqs]

/-- **Skipped rules can be left out.** What they record is all that they add. -/
theorem applyAll_around_skipped (hqs : (applyAll qs stage outer t).fault = none)
    (h : ∀ r ∈ rs, r.Skipped stage (applyAll qs stage outer t).text skip) :
    applyAll (qs ++ rs ++ ps) stage outer t =
      { applyAll (qs ++ ps) stage outer t with
        entries := (applyAll qs stage outer t).entries ++
          (rs.map fun r ↦ { heading r outer with skip }) ++
          (applyAll ps stage outer (applyAll qs stage outer t).text).entries } := by
  rw [applyAll_append_of_fault hqs, applyAll_append, applyAll_append, Run.andThen_assoc,
    Run.andThen, hqs]
  dsimp only
  rw [applyAll_of_skipped h, Run.andThen_of_ok, List.append_assoc]

theorem exists_rule_of_mem_entries (h : (applyAll rs stage outer t).fault = none) {e : Entry}
    (he : e ∈ (applyAll rs stage outer t).entries) :
    ∃ r ∈ nestedAll rs, e.rule = (r.name : CodeString) := by
  obtain ⟨forest, hlists⟩ := exists_listsAll rs outer t h
  rw [← hlists.entries_eq] at he
  obtain ⟨x, hx, rfl⟩ := List.mem_map.1 he
  exact ⟨x.rule, hlists.rule_mem x hx, (hlists.faithful x hx).identifies.1⟩

end Rule

end ShaderDowngrade

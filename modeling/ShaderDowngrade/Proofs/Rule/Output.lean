import ShaderDowngrade.Proofs.Pattern.Rewriting
import ShaderDowngrade.Proofs.Pattern.Shape
import ShaderDowngrade.Rule.Postcondition

/-!
# What rules leave

The text that a rule leaves does not depend on the group in which it runs, and the texts of a list
of rules are those of its rules, one after the other. A rule whose gate does not admit the stage
leaves everything as it is. A substitution whose template can be read, and whose pattern is plain
and never empty, rewrites the text.

Main statements: `Rule.applyAll_cons`, a list of rules is its first rule and then the others;
`Rule.idle_of_not_admits`, what a gate that does not open means; `Substitution.Regular.replaces`, a
regular substitution replaces all matches of its pattern, piece by piece.
-/

namespace ShaderDowngrade

namespace Rule

variable {r : Rule} {rs : List Rule} {stage : Stage} {outer : String} {t : Text}

/-- The text that a rule leaves of a text. -/
def output (r : Rule) (stage : Stage) (t : Text) : Text := (r.apply stage "" t).text

/-- The rule can be applied, whatever the text. -/
def Applicable (r : Rule) (stage : Stage) : Prop := ∀ t, (r.apply stage "" t).fault = none

theorem apply_outer (r : Rule) (stage : Stage) (outer : String) (t : Text) :
    (r.apply stage outer t).text = r.output stage t ∧
      (r.apply stage outer t).fault = (r.apply stage "" t).fault := by
  cases r with
  | substitute r =>
    simp only [output, apply, Substitution.apply]
    split
    · split <;> exact ⟨rfl, rfl⟩
    · exact ⟨rfl, rfl⟩
  | prepend r =>
    simp only [output, apply, Prepend.apply]
    split <;> exact ⟨rfl, rfl⟩
  | group name probe gate description rules =>
    simp only [output, apply]
    split
    · split <;> exact ⟨rfl, rfl⟩
    · exact ⟨rfl, rfl⟩

/-- A list of rules is its first rule and then the others. -/
theorem applyAll_cons (h : r.Applicable stage) :
    (applyAll (r :: rs) stage outer t).text = (applyAll rs stage outer (r.output stage t)).text ∧
      (applyAll (r :: rs) stage outer t).fault =
        (applyAll rs stage outer (r.output stage t)).fault := by
  obtain ⟨htext, hfault⟩ := apply_outer r stage outer t
  rw [h t] at hfault
  rw [applyAll, Run.andThen, hfault, htext]
  exact ⟨rfl, rfl⟩

theorem text_applyAll_cons (h : r.Applicable stage) :
    (applyAll (r :: rs) stage outer t).text = (applyAll rs stage outer (r.output stage t)).text :=
  (applyAll_cons h).1

theorem text_applyAll_nil : (applyAll [] stage outer t).text = t := by
  rw [applyAll]

theorem text_applyAll_append {qs : List Rule} (h : ∀ q ∈ qs, q.Applicable stage) :
    (applyAll (qs ++ rs) stage outer t).text =
      (applyAll rs stage outer (applyAll qs stage outer t).text).text := by
  induction qs generalizing t with
  | nil => rw [List.nil_append, text_applyAll_nil]
  | cons q qs ih =>
    have hq := h q List.mem_cons_self
    rw [List.cons_append, text_applyAll_cons hq, text_applyAll_cons hq]
    exact ih fun r hr ↦ h r (List.mem_cons_of_mem q hr)

theorem fault_applyAll (h : ∀ r ∈ rs, r.Applicable stage) :
    (applyAll rs stage outer t).fault = none := by
  induction rs generalizing t with
  | nil => rw [applyAll]
  | cons r rs ih =>
    rw [(applyAll_cons (h r List.mem_cons_self)).2]
    exact ih fun q hq ↦ h q (List.mem_cons_of_mem r hq)

/-- At the stage the rule can be applied to every text, and replaces all matches of the pattern. -/
structure Replaces (r : Rule) (stage : Stage) (p : Pattern) (replacement : Match → Text) :
    Prop where
  /-- The rule never fails. -/
  applicable : r.Applicable stage
  /-- The text that the rule leaves. -/
  output_eq : ∀ t, r.output stage t = p.replaceWith replacement t
  /-- The text that the rule leaves, piece by piece. -/
  rewrites : ∀ t, p.Rewrites replacement t (r.output stage t)

/-- The rule can be applied to the text, and records under its name how often it has matched. -/
def Records (r : Rule) (stage : Stage) (t : Text) (count : Nat) : Prop :=
  ∀ outer, ∃ e : Entry, r.apply stage outer t = ⟨[e], r.output stage t, none⟩ ∧
    e.rule = r.name ∧ e.matchCount = count ∧ e.fired = decide (0 < count)

/-! ## Gates -/

theorem applicable_of_not_admits (h : r.admits stage = false) : r.Applicable stage := by
  intro t
  rw [apply_of_not_admits h]

theorem idle_of_not_admits (h : r.admits stage = false) :
    r.output stage t = t ∧ r.violations stage t = [] := by
  refine ⟨by rw [output, apply_of_not_admits h], ?_⟩
  cases r with
  | substitute r =>
    have hgate : r.gate.admits stage = false := h
    rw [violations, Substitution.violations]
    split
    · rfl
    · rw [hgate, Bool.false_and, if_neg Bool.false_ne_true]
  | prepend r =>
    have hgate : r.gate.admits stage = false := h
    rw [violations, Prepend.violations, hgate, Bool.false_and, if_neg Bool.false_ne_true]
  | group name probe gate description rules =>
    have hgate : gate.admits stage = false := h
    rw [violations, if_neg (by simp [hgate])]

theorem violations_of_not_admits (h : r.admits stage = false) : r.violations stage t = [] :=
  (idle_of_not_admits h).2

theorem text_applyAll_cons_of_not_admits (h : r.admits stage = false) :
    (applyAll (r :: rs) stage outer t).text = (applyAll rs stage outer t).text := by
  rw [text_applyAll_cons (applicable_of_not_admits h), (idle_of_not_admits h).1]

/-! ## Prepended directives -/

theorem apply_prepend {r : Prepend} (h : r.gate.admits stage = true) :
    ((Rule.prepend r).output stage t = prependDirective r.directive t) ∧
      (Rule.prepend r).Applicable stage := by
  refine ⟨by rw [output, apply, Prepend.apply, if_pos h], fun t ↦ ?_⟩
  rw [apply, Prepend.apply, if_pos h]

theorem records_prepend {r : Prepend} (h : r.gate.admits stage = true) (t : Text) :
    (Rule.prepend r).Records stage t 1 := by
  intro outer
  rw [output, apply, apply, Prepend.apply, Prepend.apply, if_pos h, if_pos h]
  exact ⟨_, rfl, rfl, rfl, rfl⟩

/-! ## Groups -/

/-- A group that runs at the stage leaves what its rules leave, if its probe matches. -/
theorem output_group {name description : String} {probe : Pattern} {gate : Gate}
    (hgate : gate.admits stage = true) (t : Text) :
    (Rule.group name probe gate description rs).output stage t =
      if probe.occursIn t = true then (applyAll rs stage name t).text else t := by
  rw [output, apply, if_pos hgate]
  by_cases h : probe.occursIn t = true
  · have : probe.count t ≠ 0 := by simp [Pattern.count_eq_zero_iff, h]
    rw [if_pos h, if_neg this, Run.andThen_of_ok]
  · have : probe.count t = 0 := by simpa [Pattern.count_eq_zero_iff] using h
    rw [if_neg h, if_pos this]

/-- A group whose probe matches records how often, and then does and records what its rules do. -/
theorem apply_group_of_occursIn {name description : String} {probe : Pattern} {gate : Gate}
    (hgate : gate.admits stage = true) (hprobe : probe.occursIn t = true) (outer : String) :
    ∃ e : Entry, (Rule.group name probe gate description rs).apply stage outer t =
        { applyAll rs stage name t with entries := e :: (applyAll rs stage name t).entries } ∧
      e.rule = name ∧ e.matchCount = probe.count t ∧ e.fired = true := by
  have hhits : probe.count t ≠ 0 := by simp [Pattern.count_eq_zero_iff, hprobe]
  simp only [apply, if_pos hgate, if_neg hhits, Run.andThen_of_ok, List.singleton_append]
  exact ⟨_, rfl, rfl, rfl, rfl⟩

theorem records_group_of_not_occursIn {name description : String} {probe : Pattern} {gate : Gate}
    (hgate : gate.admits stage = true) (hprobe : probe.occursIn t = false) :
    (Rule.group name probe gate description rs).Records stage t 0 := by
  intro outer
  have hhits : probe.count t = 0 := by simp [Pattern.count_eq_zero_iff, hprobe]
  simp only [output, apply, if_pos hgate, if_pos hhits]
  exact ⟨_, rfl, rfl, rfl, rfl⟩

theorem applicable_group {name description : String} {probe : Pattern} {gate : Gate}
    (hrules : ∀ r ∈ rs, r.Applicable stage) :
    (Rule.group name probe gate description rs).Applicable stage := by
  intro t
  simp only [apply]
  split
  · split
    · rfl
    · rw [Run.andThen_of_ok]
      exact fault_applyAll hrules
  · rfl

end Rule

/-! ## Templates -/

namespace Template

theorem expand_append (s t : Template) (m : Match) :
    Template.expand (s ++ t) m = s.expand m ++ t.expand m :=
  List.flatMap_append

@[simp] theorem expand_map_char (w : Text) (m : Match) : Template.expand (w.map .char) m = w := by
  induction w with
  | nil => rfl
  | cons c cs ih =>
    rw [expand] at ih
    rw [expand, List.map_cons, List.flatMap_cons, ih]
    rfl

@[simp] theorem expand_group (index : Nat) (m : Match) :
    Template.expand [.group index] m = m.group index :=
  List.flatMap_singleton _ _

end Template

/-! ## Substitutions -/

namespace Substitution

/-- The template can be read, and the pattern is plain and never empty. -/
structure Regular (r : Substitution) (template : Template) : Prop where
  /-- The replacement reads as the template. -/
  read : Template.read r.pattern.expr.groupCount r.replacement.toList = .ok template
  /-- The pattern has no anchors, no lookahead, and repeats single characters only. -/
  plain : r.pattern.expr.Plain = true
  /-- The pattern does not match the empty text. -/
  ne_nil : [] ∉ r.pattern.words

variable {r : Substitution} {template : Template} {stage : Stage}

theorem applicable_of_read
    (h : Template.read r.pattern.expr.groupCount r.replacement.toList = .ok template) :
    (Rule.substitute r).Applicable stage := by
  intro t
  rw [Rule.apply, apply, h]
  split <;> rfl

theorem output_of_read
    (h : Template.read r.pattern.expr.groupCount r.replacement.toList = .ok template)
    (hgate : r.gate.admits stage = true) (t : Text) :
    (Rule.substitute r).output stage t = r.pattern.replaceWith template.expand t := by
  rw [Rule.output, Rule.apply, apply, if_pos hgate, h]
  rfl

/-- **A regular substitution replaces all matches of its pattern.** -/
theorem Regular.replaces (h : r.Regular template) (hgate : r.gate.admits stage = true) :
    (Rule.substitute r).Replaces stage r.pattern template.expand := by
  have houtput := output_of_read h.read hgate
  refine ⟨applicable_of_read h.read, houtput, fun t ↦ ?_⟩
  rw [houtput]
  exact Pattern.rewrites_replaceWith h.plain h.ne_nil _ t

theorem records
    (h : Template.read r.pattern.expr.groupCount r.replacement.toList = .ok template)
    (hgate : r.gate.admits stage = true) (t : Text) :
    (Rule.substitute r).Records stage t (r.pattern.count t) := by
  intro outer
  rw [Rule.output, Rule.apply, Rule.apply, apply, apply, if_pos hgate, if_pos hgate, h]
  exact ⟨_, rfl, rfl, rfl, rfl⟩

theorem violations_of_forbids {p : Pattern} (hp : r.forbids = some p)
    (hgate : r.gate.admits stage = true) (t : Text) :
    (Rule.substitute r).violations stage t =
      if p.occursIn t = true then [.patternPresent r.name p.spelling] else [] := by
  simp [Rule.violations, violations, hp, hgate]

end Substitution

/-! ## What a substitution demands -/

namespace Rule

variable {r : Substitution} {p : Pattern} {stage : Stage} {t : Text}

theorem violations_eq_nil_iff (hp : r.forbids = some p) (hgate : r.gate.admits stage = true) :
    (substitute r).violations stage t = [] ↔ p.occursIn t = false := by
  rw [Substitution.violations_of_forbids hp hgate]
  simp

theorem violations_eq_nil_iff_of_word {w : Text} (hp : r.forbids = some p)
    (hgate : r.gate.admits stage = true) (hw : p.expr = .word w) :
    (substitute r).violations stage t = [] ↔ Text.includes t w = false := by
  rw [violations_eq_nil_iff hp hgate, Pattern.occursIn_of_expr_eq_word hw]

theorem violations_of_forbids_eq_none (h : r.forbids = none) :
    (substitute r).violations stage t = [] := by
  rw [violations, Substitution.violations, h]

end Rule

end ShaderDowngrade

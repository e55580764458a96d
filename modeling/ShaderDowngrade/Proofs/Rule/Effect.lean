import ShaderDowngrade.Proofs.Pattern.Weight
import ShaderDowngrade.Proofs.Rule.Output
import ShaderDowngrade.Proofs.Rule.Trace
import ShaderDowngrade.Proofs.StrictRefinement

/-!
# Rules that take effect

The first entry that a rule makes says whether the rule took effect, and a rule that did not makes
no other. That a rule which took effect has also changed the text is another matter, and so is that
the rules after it do not undo the change. Both follow from one weight of texts that every rule
raises when it takes effect.

Main statements: `Rule.Raises.applyAll`, rules that raise a weight leave a heavier text or the same
text; `Conversion.exists_truthful`, the ledger of a conversion by such rules tells the truth about
change.

## Why one weight for all rules

Each rule on its own changes the text for a reason of its own, such as a word that it removes. But
such reasons do not add up: a later rule may put the same word back. A weight that only ever rises
cannot come back to where it was, whichever of the rules took effect.
-/

namespace ShaderDowngrade

open Text (weight)

namespace Rule

variable {f : Char → ℤ} {r : Rule} {rs : List Rule} {stage : Stage} {outer : String} {t : Text}

/-- Whether the text has what the rule looks for. A directive looks for nothing. -/
def finds : Rule → Text → Bool
  | .substitute r, t => r.pattern.occursIn t
  | .prepend _, _ => true
  | .group _ probe _ _ _, t => probe.occursIn t

/-- Whether the rule takes effect on the text: it runs at the stage, and finds what it looks for. -/
def takesEffect (r : Rule) (stage : Stage) (t : Text) : Bool := r.admits stage && r.finds t

theorem takesEffect_of_admits (h : r.admits stage = true) :
    r.takesEffect stage t = r.finds t := by
  rw [takesEffect, h, Bool.true_and]

theorem takesEffect_of_not_admits (h : r.admits stage = false) :
    r.takesEffect stage t = false := by
  rw [takesEffect, h, Bool.false_and]

/-! ## What the entries tell -/

theorem exists_entries_apply (h : (r.apply stage outer t).fault = none) :
    ∃ e es, (r.apply stage outer t).entries = e :: es ∧ e.fired = r.takesEffect stage t ∧
      (e.fired = false → es = []) := by
  by_cases hgate : r.admits stage = true
  · cases r with
    | substitute r =>
      have hadmits : r.gate.admits stage = true := hgate
      have hcount : decide (0 < r.pattern.count t) = r.pattern.occursIn t := by
        rw [Bool.eq_iff_iff, decide_eq_true_eq, Nat.pos_iff_ne_zero, Ne,
          Pattern.count_eq_zero_iff, Bool.not_eq_false]
      rw [apply, Substitution.apply, if_pos hadmits] at h ⊢
      split at h
      · cases h
      · refine ⟨_, [], rfl, ?_, fun _ ↦ rfl⟩
        rw [takesEffect_of_admits hgate]
        exact hcount
    | prepend r =>
      have hadmits : r.gate.admits stage = true := hgate
      rw [apply, Prepend.apply, if_pos hadmits]
      exact ⟨_, [], rfl, (takesEffect_of_admits hgate).symm, fun _ ↦ rfl⟩
    | group name probe gate description rules =>
      have hadmits : gate.admits stage = true := hgate
      rw [apply, if_pos hadmits]
      by_cases hprobe : probe.count t = 0
      · rw [if_pos hprobe]
        refine ⟨_, [], rfl, ?_, fun _ ↦ rfl⟩
        rw [takesEffect_of_admits hgate, finds, (Pattern.count_eq_zero_iff _ _).1 hprobe]
      · rw [if_neg hprobe, Run.andThen_of_ok]
        refine ⟨_, _, rfl, ?_, fun hfired ↦ ?_⟩
        · rw [Pattern.count_eq_zero_iff, Bool.not_eq_false] at hprobe
          rw [takesEffect_of_admits hgate, finds, hprobe]
        · cases hfired
  · rw [Bool.not_eq_true] at hgate
    rw [apply_of_not_admits hgate, takesEffect_of_not_admits hgate]
    exact ⟨_, [], rfl, rfl, fun _ ↦ rfl⟩

theorem exists_fired_apply_iff (h : (r.apply stage outer t).fault = none) :
    (∃ e ∈ (r.apply stage outer t).entries, e.fired = true) ↔ r.takesEffect stage t = true := by
  obtain ⟨e, es, hentries, hfired, hother⟩ := exists_entries_apply h
  rw [hentries, ← hfired]
  constructor
  · rintro ⟨d, hd, hdfired⟩
    by_contra he
    rw [hother (Bool.not_eq_true _ ▸ he), List.mem_singleton] at hd
    exact he (hd ▸ hdfired)
  · exact fun he ↦ ⟨e, List.mem_cons_self, he⟩

/-- If all rules inside it have names, then a rule that runs outside of groups makes one entry that
stands outside of groups, and it tells whether the rule took effect. -/
theorem exists_filter_group_apply (hnames : ∀ q ∈ r.nested, q.name ≠ "")
    (h : (r.apply stage "" t).fault = none) :
    ∃ e : Entry, (r.apply stage "" t).entries.filter (·.group = ("" : CodeString)) = [e] ∧
      e.rule = (r.name : CodeString) ∧ e.fired = r.takesEffect stage t := by
  obtain ⟨forest, hlists⟩ := exists_lists r "" t h
  obtain ⟨e, es, hentries, hfired, -⟩ := exists_entries_apply h
  obtain ⟨x, rfl, hx⟩ := List.map_eq_singleton_iff.1 hlists.roots
  have hnested : ∀ q ∈ nestedAll [r], q.name ≠ "" := by
    rw [nestedAll, nestedAll, List.append_nil]
    exact hnames
  -- the root of the tree is what the first entry is about
  have hroot : x.entry = e := by
    have hall := hlists.entries_eq
    rw [hentries, Executed.preorderAll, Executed.preorder_eq, List.cons_append,
      List.map_cons] at hall
    exact (List.cons.inj hall).1
  have hidentifies := (hlists.faithful x (Executed.subset_preorderAll _ (by simp))).identifies
  refine ⟨e, ?_, ?_, hfired⟩
  · rw [hlists.filter_group hnested, List.map_singleton, hroot]
  · rw [← hroot, ← hx]
    exact hidentifies.1

/-! ## Rules that raise a weight -/

/-- At the stage the rule can be applied to every text. If it takes effect, then the text gets
heavier, and otherwise the text stays as it is. -/
structure Raises (f : Char → ℤ) (r : Rule) (stage : Stage) : Prop where
  /-- The rule never fails. -/
  applicable : r.Applicable stage
  /-- Taking effect raises the weight. -/
  weight_lt : ∀ t, r.takesEffect stage t = true → weight f t < weight f (r.output stage t)
  /-- Without effect, nothing happens. -/
  output_eq : ∀ t, r.takesEffect stage t = false → r.output stage t = t

theorem raises_of_not_admits (h : r.admits stage = false) : r.Raises f stage where
  applicable := applicable_of_not_admits h
  weight_lt t ht := by
    rw [takesEffect_of_not_admits h] at ht
    cases ht
  output_eq _ _ := (idle_of_not_admits h).1

/-- A substitution whose replacements outweigh the matches raises the weight. -/
theorem Replaces.raises {r : Substitution} {replacement : Match → Text}
    (h : (Rule.substitute r).Replaces stage r.pattern replacement)
    (hgate : r.gate.admits stage = true) (hplain : r.pattern.expr.Plain = true)
    (hne : [] ∉ r.pattern.words)
    (hlt : ∀ m, r.pattern.expr.Spells m.text m.groups →
      weight f m.text < weight f (replacement m)) : (Rule.substitute r).Raises f stage := by
  have htakes (t : Text) : (Rule.substitute r).takesEffect stage t = r.pattern.occursIn t :=
    takesEffect_of_admits hgate
  refine ⟨h.applicable, fun t ht ↦ ?_, fun t ht ↦ ?_⟩
  · rw [htakes, Pattern.occursIn_iff_occurs hplain] at ht
    exact (h.rewrites t).weight_lt hlt ht hne
  · rw [htakes, Pattern.occursIn_eq_false_iff hplain] at ht
    exact (h.rewrites t).eq_of_not_occurs ht

/-- A directive raises the weight if its line is heavy. -/
theorem raises_prepend {r : Prepend} (hgate : r.gate.admits stage = true)
    (hpos : 0 < weight f (r.directive.toList ++ directiveSeparator)) :
    (Rule.prepend r).Raises f stage where
  applicable := (apply_prepend (t := []) hgate).2
  weight_lt t _ := by
    rw [(apply_prepend (t := t) hgate).1, prependDirective, Text.weight_append]
    exact lt_add_of_pos_left _ hpos
  output_eq t ht := by
    have htakes : (Rule.prepend r).takesEffect stage t = true := takesEffect_of_admits hgate
    rw [htakes] at ht
    cases ht

/-- **Rules that raise a weight** leave a heavier text if some entry says that a rule took effect,
and the same text otherwise. -/
theorem Raises.applyAll (h : ∀ r ∈ rs, r.Raises f stage) (outer : String) (t : Text) :
    ((∃ e ∈ (applyAll rs stage outer t).entries, e.fired = true) →
        weight f t < weight f (applyAll rs stage outer t).text) ∧
      ((¬ ∃ e ∈ (applyAll rs stage outer t).entries, e.fired = true) →
        (applyAll rs stage outer t).text = t) := by
  induction rs generalizing t with
  | nil =>
    rw [Rule.applyAll]
    simp
  | cons r rs ih =>
    obtain ⟨hr, hrs⟩ := List.forall_mem_cons.1 h
    obtain ⟨htext, hfault⟩ := apply_outer r stage outer t
    rw [hr.applicable t] at hfault
    obtain ⟨hlt, heq⟩ := ih hrs (r.output stage t)
    have hentries : (Rule.applyAll (r :: rs) stage outer t).entries =
        (r.apply stage outer t).entries ++
          (Rule.applyAll rs stage outer (r.output stage t)).entries := by
      rw [Rule.applyAll, Run.andThen, hfault, htext]
    -- the text never gets lighter, and it is the same only if nothing took effect
    have hlater : weight f (r.output stage t) ≤
        weight f (Rule.applyAll rs stage outer (r.output stage t)).text := by
      by_cases hfired : ∃ e ∈ (Rule.applyAll rs stage outer (r.output stage t)).entries,
          e.fired = true
      · exact (hlt hfired).le
      · rw [heq hfired]
    rw [hentries, text_applyAll_cons hr.applicable]
    simp only [List.mem_append, or_and_right, exists_or, exists_fired_apply_iff hfault]
    cases htakes : r.takesEffect stage t with
    | true =>
      have hfirst := (hr.weight_lt t htakes).trans_le hlater
      exact ⟨fun _ ↦ hfirst, fun hnot ↦ absurd (Or.inl rfl) hnot⟩
    | false =>
      rw [hr.output_eq t htakes] at hlt heq ⊢
      simp only [Bool.false_eq_true, false_or]
      exact ⟨hlt, heq⟩

theorem Raises.weight_lt_or_eq (h : ∀ r ∈ rs, r.Raises f stage) (outer : String) (t : Text) :
    weight f t < weight f (Rule.applyAll rs stage outer t).text ∨
      (Rule.applyAll rs stage outer t).text = t := by
  obtain ⟨hlt, heq⟩ := Raises.applyAll h outer t
  by_cases hfired : ∃ e ∈ (Rule.applyAll rs stage outer t).entries, e.fired = true
  · exact .inl (hlt hfired)
  · exact .inr (heq hfired)

theorem Raises.output_eq_iff (h : r.Raises f stage) :
    r.output stage t = t ↔ r.takesEffect stage t = false := by
  refine ⟨fun heq ↦ ?_, h.output_eq t⟩
  by_contra htakes
  have hlt := h.weight_lt t ((Bool.not_eq_false _).mp htakes)
  rw [heq] at hlt
  exact lt_irrefl _ hlt

/-- Rules that raise a weight leave the text as it is exactly if none of them would take effect on
it: the first that does changes it for good. -/
theorem Raises.text_applyAll_eq_iff (h : ∀ r ∈ rs, r.Raises f stage) :
    (Rule.applyAll rs stage outer t).text = t ↔ ∀ r ∈ rs, r.takesEffect stage t = false := by
  induction rs with
  | nil => simp [text_applyAll_nil]
  | cons r rs ih =>
    obtain ⟨hr, hrs⟩ := List.forall_mem_cons.1 h
    rw [text_applyAll_cons hr.applicable, List.forall_mem_cons, ← hr.output_eq_iff]
    constructor
    · intro hsame
      have hfirst : r.output stage t = t := by
        rw [hr.output_eq_iff]
        by_contra htakes
        have hlt := hr.weight_lt t ((Bool.not_eq_false _).mp htakes)
        rcases Raises.weight_lt_or_eq hrs outer (r.output stage t) with hlater | hlater
        · rw [hsame] at hlater
          exact lt_asymm hlt hlater
        · rw [← hlater, hsame] at hlt
          exact lt_irrefl _ hlt
      rw [hfirst] at hsame
      exact ⟨hfirst, (ih hrs).1 hsame⟩
    · rintro ⟨hfirst, hothers⟩
      rw [hfirst]
      exact (ih hrs).2 hothers

/-- A group that begins with a heavy directive raises the weight, if its rules do. -/
theorem raises_group {name description : String} {probe : Pattern} {gate : Gate} {d : Prepend}
    (hgate : gate.admits stage = true) (hopen : d.gate.admits stage = true)
    (h : ∀ r ∈ Rule.prepend d :: rs, r.Raises f stage) :
    (Rule.group name probe gate description (.prepend d :: rs)).Raises f stage := by
  have htakes (t : Text) :
      (Rule.group name probe gate description (.prepend d :: rs)).takesEffect stage t =
        probe.occursIn t := takesEffect_of_admits hgate
  refine ⟨applicable_group fun r hr ↦ (h r hr).applicable, fun t ht ↦ ?_, fun t ht ↦ ?_⟩
  · rw [htakes] at ht
    rw [output_group hgate, if_pos ht]
    refine (Raises.applyAll h name t).1 ?_
    refine ⟨{ rule := d.name, gate := d.gate, group := name, description := d.describe
              fired := true, matchCount := 1, inserted := d.directive }, ?_, rfl⟩
    rw [Rule.applyAll, apply, Prepend.apply, if_pos hopen, Run.andThen_of_ok]
    exact List.mem_append_left _ (List.mem_singleton.2 rfl)
  · rw [htakes] at ht
    rw [output_group hgate, if_neg (by rw [ht]; exact Bool.false_ne_true)]

end Rule

/-! ## The ledger of a conversion -/

open Rule (plainRun)

variable {f : Char → ℤ} {rules : List Rule} {stage : Stage} {source : Text}

/-- The entries outside of groups tell, rule by rule, which rules changed the text that they were
given. -/
theorem Rule.exists_filter_group_applyAll
    (hnames : ∀ r ∈ rules, ∀ q ∈ r.nested, q.name ≠ "")
    (h : ∀ r ∈ rules, r.Raises f stage) {i : ℕ} {r : Rule} (hr : rules[i]? = some r) :
    ∃ e : Entry, ((applyAll rules stage "" source).entries.filter
        (·.group = ("" : CodeString)))[i]? = some e ∧ e.rule = (r.name : CodeString) ∧
      (e.fired = true ↔ r.output stage (plainRun rules stage source i).text ≠
        (plainRun rules stage source i).text) := by
  induction rules generalizing i source with
  | nil => cases hr
  | cons q rules ih =>
    obtain ⟨hq, hrules⟩ := List.forall_mem_cons.1 h
    obtain ⟨hqnames, hnames⟩ := List.forall_mem_cons.1 hnames
    have hfault := hq.applicable source
    obtain ⟨e, hfilter, hname, hfired⟩ := exists_filter_group_apply hqnames hfault
    rw [applyAll, Run.andThen, hfault, List.filter_append, hfilter]
    cases i with
    | zero =>
      obtain rfl : q = r := Option.some.inj hr
      refine ⟨e, rfl, hname, ?_⟩
      rw [hfired, plainRun_zero]
      constructor
      · intro htakes heq
        have hlt := hq.weight_lt source htakes
        rw [heq] at hlt
        exact lt_irrefl _ hlt
      · intro hne
        by_contra htakes
        rw [Bool.not_eq_true] at htakes
        exact hne (hq.output_eq source htakes)
    | succ i =>
      rw [List.getElem?_cons_succ] at hr
      rw [plainRun_cons_succ hfault]
      exact ih hnames hrules hr

/-- **The ledger tells the truth about change.** If all rules have names and raise one weight, then
an entry outside of groups says that its rule took effect exactly if the rule changed the text that
it was given, and the conversion has changed the source exactly if some rule took effect. -/
theorem Conversion.exists_truthful (hnames : ∀ r ∈ rules, ∀ q ∈ r.nested, q.name ≠ "")
    (h : ∀ r ∈ rules, r.Raises f stage) (source : Text) :
    ∃ c, Conversion.run rules false stage source = .ok c ∧
      (∀ i r, rules[i]? = some r → ∃ e : Entry,
        (c.ledger.entries.filter (·.group = ("" : CodeString)))[i]? = some e ∧
          e.rule = (r.name : CodeString) ∧
          (e.fired = true ↔ r.output stage (plainRun rules stage source i).text ≠
            (plainRun rules stage source i).text)) ∧
      (c.changed = true ↔ c.firedRules ≠ []) := by
  have hfault : (Rule.applyAll rules stage "" source).fault = none :=
    Rule.fault_applyAll fun r hr ↦ (h r hr).applicable
  refine ⟨_, run_plain hfault, fun i r hr ↦ Rule.exists_filter_group_applyAll hnames h hr, ?_⟩
  obtain ⟨hlt, heq⟩ := Rule.Raises.applyAll h "" source
  have hfired (es : List Entry) : Ledger.firedNames { stage := some stage, entries := es } ≠ [] ↔
      ∃ e ∈ es, e.fired = true := by
    simp [Ledger.firedNames, Ledger.fired, Ledger.select, Query.admits]
  rw [changed, bne_iff_ne, firedRules, hfired]
  constructor
  · intro hchanged
    by_contra hnot
    exact hchanged (heq hnot)
  · intro hsome hsame
    exact (hlt hsome).ne (congrArg (weight f) hsame.symm)

end ShaderDowngrade

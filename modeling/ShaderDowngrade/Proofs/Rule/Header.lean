import ShaderDowngrade.Proofs.Pattern.Behind
import ShaderDowngrade.Proofs.Rule.Output
import ShaderDowngrade.Proofs.Rule.Trace

/-!
# The header of directives

Directives are put in front of a text while rules are still at work on it, and the entries record
them in that order; the last one stands on the first line. If no rule finds anything to replace in a
directive, nor across its end, then the text that rules leave is a header, read off their entries,
and behind it what the same rules would leave if they put nothing in front.

Main statement: `Rule.headed_applyAll`, this for any rules that overlook the directives.

## What the induction carries

A rule starts behind the directives of the rules before it. The statement is therefore about a text
that has lines in front already, and says which lines come on top of them.
-/

namespace ShaderDowngrade

/-- A directive as it stands in front of a text. -/
def directiveLine (d : String) : Text := d.toList ++ directiveSeparator

/-- The lines of directives, top line first. -/
def headerOf (ds : List CodeString) : Text := ds.flatMap fun d ↦ d.toText ++ directiveSeparator

@[simp] theorem headerOf_nil : headerOf [] = [] := rfl

theorem headerOf_append (ds es : List CodeString) :
    headerOf (ds ++ es) = headerOf ds ++ headerOf es :=
  List.flatMap_append

@[simp] theorem headerOf_singleton (d : String) : headerOf [d] = directiveLine d := by
  rw [headerOf, List.flatMap_singleton, CodeString.toText_ofString, directiveLine]

namespace Ledger

theorem directives_append (s : Option Stage) (es fs : List Entry) :
    directives ⟨s, es ++ fs⟩ = directives ⟨s, fs⟩ ++ directives ⟨s, es⟩ := by
  simp [directives, fired, select]

theorem directives_singleton {s : Option Stage} {e : Entry} (h : e.inserted = ("" : CodeString)) :
    directives ⟨s, [e]⟩ = [] := by
  cases hfired : e.fired <;> simp [directives, fired, select, Query.admits, hfired, h]

end Ledger

namespace Run

/-- The directives that a run records, top line first. -/
def directives (run : Run) : List CodeString := Ledger.directives { entries := run.entries }

/-- The run puts some of the directives `ds` in front of the header, and is otherwise as bare as the
other run. -/
structure Headed (ds : List String) (header : Text) (run bare : Run) : Prop where
  /-- Both runs end alike. -/
  fault_eq : run.fault = bare.fault
  /-- No other directive is recorded. -/
  exists_mem : ∀ d ∈ run.directives, ∃ s ∈ ds, d = s
  /-- The recorded directives stand in front. -/
  text_eq : run.text = headerOf run.directives ++ header ++ bare.text

variable {ds : List String} {header : Text} {run bare : Run}

theorem andThen_assoc (run : Run) (f g : Text → Run) :
    (run.andThen f).andThen g = run.andThen fun t ↦ (f t).andThen g := by
  obtain ⟨entries, text, fault⟩ := run
  cases fault with
  | some fault => rfl
  | none =>
    simp only [andThen_of_ok]
    cases h : (f text).fault with
    | some fault => simp only [andThen, h]
    | none => simp only [andThen, h, List.append_assoc]

theorem andThen_nothing (run : Run) : (run.andThen fun t ↦ ⟨[], t, none⟩) = run := by
  obtain ⟨entries, text, fault⟩ := run
  cases fault with
  | some fault => rfl
  | none => rw [andThen_of_ok, List.append_nil]

theorem directives_andThen (h : run.fault = none) (next : Text → Run) :
    (run.andThen next).directives = (next run.text).directives ++ run.directives := by
  rw [andThen, h]
  exact Ledger.directives_append none run.entries (next run.text).entries

theorem Headed.mono {es : List String} (h : Headed ds header run bare) (hds : ds ⊆ es) :
    Headed es header run bare where
  fault_eq := h.fault_eq
  exists_mem d hd := (h.exists_mem d hd).imp fun _ hs ↦ ⟨hds hs.1, hs.2⟩
  text_eq := h.text_eq

theorem Headed.andThen {next bareNext : Text → Run} (h : Headed ds header run bare)
    (hnext : Headed ds (headerOf run.directives ++ header) (next run.text) (bareNext bare.text)) :
    Headed ds header (run.andThen next) (bare.andThen bareNext) := by
  cases hfault : run.fault with
  | some fault =>
    have hbare : bare.fault = some fault := h.fault_eq ▸ hfault
    rw [Run.andThen, hfault, Run.andThen, hbare]
    exact h
  | none =>
    have hbare : bare.fault = none := h.fault_eq ▸ hfault
    have hdirectives := directives_andThen hfault next
    refine ⟨?_, fun d hd ↦ ?_, ?_⟩
    · rw [Run.andThen, hfault, Run.andThen, hbare]
      exact hnext.fault_eq
    · rw [hdirectives] at hd
      exact (List.mem_append.1 hd).elim (hnext.exists_mem d) (h.exists_mem d)
    · rw [hdirectives, headerOf_append, List.append_assoc _ _ header, Run.andThen, hfault,
        Run.andThen, hbare]
      exact hnext.text_eq

theorem headed_of_directives_eq_nil (hfault : run.fault = bare.fault) (h : run.directives = [])
    (htext : run.text = header ++ bare.text) : Headed ds header run bare where
  fault_eq := hfault
  exists_mem d hd := by
    rw [h] at hd
    cases hd
  text_eq := by
    rw [h, htext, headerOf_nil, List.nil_append]

end Run

/-! ## Rules that overlook directives -/

namespace Rule

mutual

/-- The rule without the rules inside it that put directives in front. -/
def withoutPrepends : Rule → List Rule
  | .substitute r => [.substitute r]
  | .prepend _ => []
  | .group name probe stageGate description rules =>
    [.group name probe stageGate description (withoutPrependsAll rules)]

/-- The rules without those that put directives in front, also inside groups. -/
def withoutPrependsAll : List Rule → List Rule
  | [] => []
  | r :: rs => r.withoutPrepends ++ withoutPrependsAll rs

end

/-- The rule does not notice the directives in front of a text, and puts no others there. -/
def Overlooks (ds : List String) : Rule → Prop
  | .substitute r => ∀ d ∈ ds, r.pattern.Keeps (directiveLine d)
  | .prepend r => r.directive ∈ ds ∧ r.directive ≠ ""
  | .group _ probe _ _ _ => ∀ d ∈ ds, probe.Keeps (directiveLine d)

variable {ds : List String} {lines : List CodeString} {stage : Stage} {outer : String} {t : Text}

theorem keeps_headerOf {p : Pattern} (h : ∀ d ∈ ds, p.Keeps (directiveLine d))
    (hlines : ∀ l ∈ lines, ∃ d ∈ ds, l = CodeString.ofString d) : p.Keeps (headerOf lines) := by
  induction lines with
  | nil => exact p.keeps_nil
  | cons l lines ih =>
    obtain ⟨d, hd, rfl⟩ := hlines l List.mem_cons_self
    rw [← List.singleton_append, headerOf_append, headerOf_singleton]
    exact (h d hd).append (ih fun l hl ↦ hlines l (List.mem_cons_of_mem _ hl))

theorem applyAll_append (rs qs : List Rule) (stage : Stage) (outer : String) (t : Text) :
    applyAll (rs ++ qs) stage outer t =
      (applyAll rs stage outer t).andThen (applyAll qs stage outer) := by
  induction rs generalizing t with
  | nil => rw [List.nil_append, applyAll, Run.andThen_of_ok, List.nil_append]
  | cons r rs ih =>
    rw [List.cons_append, applyAll, applyAll, Run.andThen_assoc]
    exact congrArg _ (funext ih)

theorem applyAll_singleton (r : Rule) (stage : Stage) (outer : String) (t : Text) :
    applyAll [r] stage outer t = r.apply stage outer t := by
  have hnil : applyAll [] stage outer = fun t ↦ ⟨[], t, none⟩ := funext fun t ↦ by rw [applyAll]
  rw [applyAll, hnil, Run.andThen_nothing]

/-! ## What rules record -/

theorem directives_applyAll_cons {r : Rule} {rs : List Rule} (h : r.Applicable stage) :
    (applyAll (r :: rs) stage outer t).directives =
      (applyAll rs stage outer (r.output stage t)).directives ++
        (r.apply stage outer t).directives := by
  obtain ⟨htext, hfault⟩ := apply_outer r stage outer t
  rw [applyAll, Run.directives_andThen (hfault.trans (h t)), htext]

theorem directives_of_not_admits {r : Rule} (h : r.admits stage = false) :
    (r.apply stage outer t).directives = [] := by
  rw [apply_of_not_admits h]
  exact Ledger.directives_singleton rfl

theorem directives_substitute (r : Substitution) :
    ((Rule.substitute r).apply stage outer t).directives = [] := by
  rw [apply, Substitution.apply]
  split
  · cases Template.read r.pattern.expr.groupCount r.replacement.toList with
    | error fault => rfl
    | ok template => exact Ledger.directives_singleton rfl
  · exact Ledger.directives_singleton rfl

theorem directives_prepend {r : Prepend} (hgate : r.gate.admits stage = true)
    (hne : r.directive ≠ "") :
    ((Rule.prepend r).apply stage outer t).directives = [(r.directive : CodeString)] := by
  have hne' : (r.directive : CodeString) ≠ ("" : CodeString) := mt CodeString.ofString_inj.1 hne
  rw [apply, Prepend.apply, if_pos hgate]
  simp [Run.directives, Ledger.directives, Ledger.fired, Ledger.select, Query.admits, hne']

/-- A group records what its rules record, if its probe matches. -/
theorem directives_group {name description : String} {probe : Pattern} {gate : Gate}
    {rules : List Rule} (hgate : gate.admits stage = true) :
    ((Rule.group name probe gate description rules).apply stage outer t).directives =
      if probe.occursIn t = true then (applyAll rules stage name t).directives else [] := by
  rw [apply, if_pos hgate]
  by_cases h : probe.occursIn t = true
  · have : probe.count t ≠ 0 := by simp [Pattern.count_eq_zero_iff, h]
    rw [if_pos h, if_neg this, Run.directives_andThen rfl]
    exact List.append_right_eq_self.2 (Ledger.directives_singleton rfl)
  · have : probe.count t = 0 := by simpa [Pattern.count_eq_zero_iff] using h
    rw [if_neg h, if_pos this]
    exact Ledger.directives_singleton rfl

@[simp] theorem directives_applyAll_nil : (applyAll [] stage outer t).directives = [] := by
  rw [applyAll]
  rfl

theorem directives_applyAll_substitute {r : Rule} {s : Substitution} {rs : List Rule}
    (h : r.Applicable stage) (hr : r = .substitute s) :
    (applyAll (r :: rs) stage outer t).directives =
      (applyAll rs stage outer (r.output stage t)).directives := by
  subst hr
  rw [directives_applyAll_cons h, directives_substitute, List.append_nil]

theorem directives_applyAll_cons_of_not_admits {r : Rule} {rs : List Rule}
    (h : r.admits stage = false) :
    (applyAll (r :: rs) stage outer t).directives = (applyAll rs stage outer t).directives := by
  rw [directives_applyAll_cons (applicable_of_not_admits h), directives_of_not_admits h,
    (idle_of_not_admits h).1, List.append_nil]

/-! ## What rules leave behind a header -/

theorem headed_substitute {r : Substitution} (h : r.pattern.Keeps (headerOf lines)) :
    Run.Headed ds (headerOf lines) ((Rule.substitute r).apply stage outer (headerOf lines ++ t))
      ((Rule.substitute r).apply stage outer t) := by
  refine Run.headed_of_directives_eq_nil ?_ (directives_substitute r) ?_
  · rw [apply, apply, Substitution.apply, Substitution.apply]
    split
    · cases Template.read r.pattern.expr.groupCount r.replacement.toList <;> rfl
    · rfl
  · rw [apply, apply, Substitution.apply, Substitution.apply]
    split
    · cases Template.read r.pattern.expr.groupCount r.replacement.toList with
      | error fault => rfl
      | ok template => exact h.replaceWith_append template.expand t
    · rfl

theorem headed_prepend {r : Prepend} (hmem : r.directive ∈ ds) (hne : r.directive ≠ "") :
    Run.Headed ds (headerOf lines) ((Rule.prepend r).apply stage outer (headerOf lines ++ t))
      ⟨[], t, none⟩ := by
  by_cases hgate : r.gate.admits stage = true
  · refine ⟨?_, fun d hd ↦ ?_, ?_⟩
    · rw [apply, Prepend.apply, if_pos hgate]
    · rw [directives_prepend hgate hne] at hd
      exact ⟨r.directive, hmem, List.mem_singleton.1 hd⟩
    · rw [directives_prepend hgate hne, headerOf_singleton, apply, Prepend.apply, if_pos hgate]
      simp [prependDirective, directiveLine]
  · have hclosed : (Rule.prepend r).admits stage = false := Bool.eq_false_iff.2 hgate
    refine Run.headed_of_directives_eq_nil ?_ (directives_of_not_admits hclosed) ?_
    · rw [apply_of_not_admits hclosed]
    · rw [apply_of_not_admits hclosed]

mutual

theorem headed_apply : ∀ (r : Rule) (outer : String) (lines : List CodeString) (t : Text),
    (∀ q ∈ r.nested, q.Overlooks ds) → (∀ l ∈ lines, ∃ d ∈ ds, l = CodeString.ofString d) →
      Run.Headed ds (headerOf lines) (r.apply stage outer (headerOf lines ++ t))
        (applyAll r.withoutPrepends stage outer t)
  | .substitute r, outer, lines, t, h, hlines => by
    rw [withoutPrepends, applyAll_singleton]
    exact headed_substitute (keeps_headerOf (h _ (self_mem_nested _)) hlines)
  | .prepend r, outer, lines, t, h, _ => by
    obtain ⟨hmem, hne⟩ := h _ (self_mem_nested (.prepend r))
    rw [withoutPrepends, applyAll]
    exact headed_prepend hmem hne
  | .group name probe gate description rules, outer, lines, t, h, hlines => by
    have hprobe : probe.Keeps (headerOf lines) := keeps_headerOf (h _ (self_mem_nested _)) hlines
    have hrules : ∀ q ∈ nestedAll rules, q.Overlooks ds := fun q hq ↦
      h q (nestedAll_inner_subset (.group name probe gate description rules) hq)
    rw [withoutPrepends, applyAll_singleton, apply, apply, hprobe.count_append]
    split
    · dsimp only
      split
      · exact Run.headed_of_directives_eq_nil rfl (Ledger.directives_singleton rfl) rfl
      · have hfirst (description description' : String) (hits : Nat) :
            Run.Headed ds (headerOf lines)
              ⟨[{ rule := name, gate := .contentProbe, group := outer, description, fired := true
                  matchCount := hits }], headerOf lines ++ t, none⟩
              ⟨[{ rule := name, gate := .contentProbe, group := outer
                  description := description', fired := true, matchCount := hits }], t, none⟩ :=
          Run.headed_of_directives_eq_nil rfl (Ledger.directives_singleton rfl) rfl
        exact (hfirst _ _ _).andThen (headed_applyAll rules name lines t hrules hlines)
    · exact Run.headed_of_directives_eq_nil rfl (Ledger.directives_singleton rfl) rfl

/-- **Rules behind a header.** Rules that overlook the directives leave those that they record,
above the lines that were there, and then what they would leave without any of them. -/
theorem headed_applyAll : ∀ (rules : List Rule) (outer : String) (lines : List CodeString)
    (t : Text), (∀ q ∈ nestedAll rules, q.Overlooks ds) →
      (∀ l ∈ lines, ∃ d ∈ ds, l = CodeString.ofString d) →
      Run.Headed ds (headerOf lines) (applyAll rules stage outer (headerOf lines ++ t))
        (applyAll (withoutPrependsAll rules) stage outer t)
  | [], _, _, _, _, _ => by
    rw [withoutPrependsAll, applyAll, applyAll]
    exact Run.headed_of_directives_eq_nil rfl rfl rfl
  | r :: rs, outer, lines, t, h, hlines => by
    have hfirst := headed_apply r outer lines t
      (fun q hq ↦ h q (List.mem_append_left _ hq)) hlines
    rw [withoutPrependsAll, applyAll_append, applyAll]
    refine hfirst.andThen ?_
    rw [hfirst.text_eq, ← headerOf_append]
    refine headed_applyAll rs outer _ _ (fun q hq ↦ h q (List.mem_append_right _ hq)) fun l hl ↦ ?_
    exact (List.mem_append.1 hl).elim (hfirst.exists_mem l) (hlines l)

end

theorem headed_applyAll_nil {rules : List Rule} (h : ∀ q ∈ nestedAll rules, q.Overlooks ds) :
    Run.Headed ds [] (applyAll rules stage outer t)
      (applyAll (withoutPrependsAll rules) stage outer t) :=
  headed_applyAll rules outer [] t h (by simp)

theorem directives_applyAll_eq_nil {rules : List Rule}
    (h : ∀ q ∈ nestedAll rules, q.Overlooks []) :
    (applyAll rules stage outer t).directives = [] := by
  refine List.eq_nil_iff_forall_not_mem.2 fun d hd ↦ ?_
  obtain ⟨_, hs, -⟩ := (headed_applyAll_nil h).exists_mem d hd
  cases hs

end Rule

end ShaderDowngrade

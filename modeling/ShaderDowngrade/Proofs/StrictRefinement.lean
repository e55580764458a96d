import ShaderDowngrade.Conversion

/-!
# Strict runs refine plain runs

A strict run goes through the same texts as a plain one and stops at the first step at which
something happens: a rule that cannot be applied, a postcondition that does not hold, or a finished
text that fails its checks. `StrictRun.Outcome` says, in terms of the plain run alone, what a strict
run then adds to its ledger and how it ends.

Main statement: `StrictRun.run_iff_outcome`, a strict run ends in exactly this way, whatever its
ledger and its log held before.

## One step at a time

A plain run is glued from the runs of its rules, so the first `n + 1` steps over `r :: rs` are the
step of `r` followed by `n` steps over `rs` from the text that `r` has left. The outcome unfolds in
the same way, and the refinement is an induction on the rules.
-/

namespace ShaderDowngrade

namespace Rule

/-- The plain run over the first `n` rules. -/
def plainRun (rules : List Rule) (stage : Stage) (source : Text) (n : Nat) : Run :=
  applyAll (rules.take n) stage "" source

variable {rules : List Rule} {r : Rule} {rs : List Rule} {stage : Stage} {source : Text} {n : Nat}

@[simp] theorem plainRun_zero : plainRun rules stage source 0 = ⟨[], source, none⟩ := rfl

@[simp] theorem plainRun_length :
    plainRun rules stage source rules.length = applyAll rules stage "" source := by
  rw [plainRun, List.take_length]

theorem plainRun_cons_succ (h : (r.apply stage "" source).fault = none) :
    plainRun (r :: rs) stage source (n + 1) =
      { plainRun rs stage (r.apply stage "" source).text n with
        entries := (r.apply stage "" source).entries ++
          (plainRun rs stage (r.apply stage "" source).text n).entries } := by
  rw [plainRun, List.take_succ_cons, applyAll, Run.andThen, h]
  rfl

/-- Nothing happens before step `n`: each earlier rule can be applied to the text that it is
offered, and leaves a text that meets its postcondition. -/
def SmoothUntil (rules : List Rule) (stage : Stage) (source : Text) (n : Nat) : Prop :=
  ∀ i r, i < n → rules[i]? = some r →
    (r.apply stage "" (plainRun rules stage source i).text).fault = none ∧
      r.violations stage (plainRun rules stage source (i + 1)).text = []

theorem smoothUntil_zero : SmoothUntil rules stage source 0 :=
  fun _ _ h ↦ absurd h (Nat.not_lt_zero _)

theorem smoothUntil_cons_succ :
    SmoothUntil (r :: rs) stage source (n + 1) ↔
      (r.apply stage "" source).fault = none ∧
        r.violations stage (r.apply stage "" source).text = [] ∧
        SmoothUntil rs stage (r.apply stage "" source).text n := by
  constructor
  · intro h
    obtain ⟨hfault, hviol⟩ := h 0 r (Nat.succ_pos n) rfl
    rw [plainRun_zero] at hfault
    rw [plainRun_cons_succ hfault] at hviol
    refine ⟨hfault, hviol, fun i q hi hq ↦ ?_⟩
    have := h (i + 1) q (by omega) (by simpa using hq)
    rwa [plainRun_cons_succ hfault, plainRun_cons_succ hfault] at this
  · rintro ⟨hfault, hviol, h⟩ i q hi hq
    cases i with
    | zero =>
      obtain rfl : r = q := by simpa using hq
      rw [plainRun_cons_succ hfault]
      exact ⟨hfault, hviol⟩
    | succ i =>
      rw [plainRun_cons_succ hfault, plainRun_cons_succ hfault]
      exact h i q (by omega) (by simpa using hq)

end Rule

namespace StrictRun

open Rule (plainRun SmoothUntil)

/-- What a strict run over the rules adds to its ledger, and how it ends. -/
inductive Outcome (rules : List Rule) (stage : Stage) (source : Text) :
    List Entry → Except StrictFault Text → Prop
  /-- A rule cannot be applied: only the entries of the rules before it are kept, also if it is a
  group some of whose rules have been applied already. -/
  | inapplicable {i : Nat} {r : Rule} {fault : TemplateError}
      (before : SmoothUntil rules stage source i) (here : rules[i]? = some r)
      (raised : (r.apply stage "" (plainRun rules stage source i).text).fault = some fault) :
      Outcome rules stage source (plainRun rules stage source i).entries
        (.error (.inapplicable fault))
  /-- A rule leaves a text that does not meet its postcondition: its entries are not kept. -/
  | violated {i : Nat} {r : Rule}
      (before : SmoothUntil rules stage source i) (here : rules[i]? = some r)
      (applied : (r.apply stage "" (plainRun rules stage source i).text).fault = none)
      (found : r.violations stage (plainRun rules stage source (i + 1)).text ≠ []) :
      Outcome rules stage source (plainRun rules stage source i).entries
        (.error (.violated r.name (r.violations stage (plainRun rules stage source (i + 1)).text)))
  /-- The finished text fails its checks: the entries of all rules are kept all the same. -/
  | unfinished (before : SmoothUntil rules stage source rules.length)
      (found : Finished.check stage (plainRun rules stage source rules.length).text ≠ []) :
      Outcome rules stage source (plainRun rules stage source rules.length).entries
        (.error (.violated finalStep
          (Finished.check stage (plainRun rules stage source rules.length).text)))
  /-- Nothing happens. -/
  | finished (before : SmoothUntil rules stage source rules.length)
      (passed : Finished.check stage (plainRun rules stage source rules.length).text = []) :
      Outcome rules stage source (plainRun rules stage source rules.length).entries
        (.ok (plainRun rules stage source rules.length).text)

/-! ## The outcome, rule by rule -/

variable {s : StrictRun} {rules : List Rule} {r : Rule} {rs : List Rule} {stage : Stage}
  {source : Text} {entries : List Entry} {result : Except StrictFault Text}

theorem outcome_nil :
    Outcome [] stage source entries result ↔
      entries = [] ∧ result = verdict finalStep (Finished.check stage source) source := by
  constructor
  · rintro (⟨_, here, _⟩ | ⟨_, here, _, _⟩ | ⟨_, found⟩ | ⟨_, passed⟩)
    · simp at here
    · simp at here
    · simp only [List.length_nil, Rule.plainRun_zero] at found ⊢
      simp [verdict, found]
    · simp only [List.length_nil, Rule.plainRun_zero] at passed ⊢
      simp [verdict, passed]
  · rintro ⟨rfl, rfl⟩
    by_cases h : Finished.check stage source = []
    · rw [verdict, h]
      exact .finished Rule.smoothUntil_zero h
    · rw [verdict, if_neg (by simpa using h)]
      exact .unfinished Rule.smoothUntil_zero h

/-- If something happens at the first rule, then this is the outcome. -/
theorem Outcome.at_first (hs : ∀ n, ¬ SmoothUntil (r :: rs) stage source (n + 1))
    (ho : Outcome (r :: rs) stage source entries result) : entries = [] ∧
      ((∃ fault, (r.apply stage "" source).fault = some fault ∧
          result = .error (.inapplicable fault)) ∨
        (r.apply stage "" source).fault = none ∧ result =
          .error (.violated r.name (r.violations stage (r.apply stage "" source).text))) := by
  cases ho with
  | @inapplicable i q fault before here raised =>
    cases i with
    | zero =>
      obtain rfl : r = q := by simpa using here
      exact ⟨rfl, .inl ⟨fault, raised, rfl⟩⟩
    | succ i => exact absurd before (hs i)
  | @violated i q before here applied found =>
    cases i with
    | zero =>
      obtain rfl : r = q := by simpa using here
      rw [Rule.plainRun_zero] at applied
      rw [Rule.plainRun_cons_succ applied]
      exact ⟨rfl, .inr ⟨applied, rfl⟩⟩
    | succ i => exact absurd before (hs i)
  | unfinished before found => exact absurd before (hs rs.length)
  | finished before passed => exact absurd before (hs rs.length)

theorem outcome_cons_of_fault {fault : TemplateError}
    (h : (r.apply stage "" source).fault = some fault) :
    Outcome (r :: rs) stage source entries result ↔
      entries = [] ∧ result = .error (.inapplicable fault) := by
  have smooth (n : Nat) (hs : SmoothUntil (r :: rs) stage source (n + 1)) : False := by
    have := (Rule.smoothUntil_cons_succ.1 hs).1
    rw [h] at this
    cases this
  constructor
  · intro ho
    obtain ⟨rfl, ⟨fault', hfault, rfl⟩ | ⟨hfault, -⟩⟩ := ho.at_first smooth
    · rw [h] at hfault
      obtain rfl := Option.some.inj hfault
      exact ⟨rfl, rfl⟩
    · rw [h] at hfault
      cases hfault
  · rintro ⟨rfl, rfl⟩
    exact .inapplicable (i := 0) Rule.smoothUntil_zero rfl h

theorem outcome_cons_of_violations (h : (r.apply stage "" source).fault = none)
    (hv : r.violations stage (r.apply stage "" source).text ≠ []) :
    Outcome (r :: rs) stage source entries result ↔
      entries = [] ∧ result =
        .error (.violated r.name (r.violations stage (r.apply stage "" source).text)) := by
  have smooth (n : Nat) (hs : SmoothUntil (r :: rs) stage source (n + 1)) : False :=
    hv (Rule.smoothUntil_cons_succ.1 hs).2.1
  constructor
  · intro ho
    obtain ⟨rfl, ⟨fault, hfault, -⟩ | ⟨-, rfl⟩⟩ := ho.at_first smooth
    · rw [h] at hfault
      cases hfault
    · exact ⟨rfl, rfl⟩
  · rintro ⟨rfl, rfl⟩
    have htext : (plainRun (r :: rs) stage source 1).text = (r.apply stage "" source).text := by
      rw [Rule.plainRun_cons_succ h, Rule.plainRun_zero]
    have ho : Outcome (r :: rs) stage source [] (.error (.violated r.name
        (r.violations stage (plainRun (r :: rs) stage source 1).text))) :=
      .violated (i := 0) Rule.smoothUntil_zero rfl h (by rwa [htext])
    rwa [htext] at ho

/-- If nothing happens at the first rule, the outcome is that of the other rules, from the text
that the first rule has left. -/
theorem outcome_cons_of_smooth (h : (r.apply stage "" source).fault = none)
    (hv : r.violations stage (r.apply stage "" source).text = []) :
    Outcome (r :: rs) stage source entries result ↔
      ∃ later, entries = (r.apply stage "" source).entries ++ later ∧
        Outcome rs stage (r.apply stage "" source).text later result := by
  -- a run over `r :: rs` is smooth up to `n + 1` exactly if the run over `rs` is up to `n`
  have shift {n : Nat} : SmoothUntil (r :: rs) stage source (n + 1) ↔
      SmoothUntil rs stage (r.apply stage "" source).text n := by
    rw [Rule.smoothUntil_cons_succ]
    exact ⟨fun hs ↦ hs.2.2, fun hs ↦ ⟨h, hv, hs⟩⟩
  constructor
  · intro ho
    cases ho with
    | @inapplicable i q fault before here raised =>
      cases i with
      | zero =>
        obtain rfl : r = q := by simpa using here
        rw [Rule.plainRun_zero, h] at raised
        cases raised
      | succ i =>
        rw [Rule.plainRun_cons_succ h] at raised ⊢
        exact ⟨_, rfl, .inapplicable (shift.1 before) (by simpa using here) raised⟩
    | @violated i q before here applied found =>
      cases i with
      | zero =>
        obtain rfl : r = q := by simpa using here
        rw [Rule.plainRun_cons_succ h, Rule.plainRun_zero] at found
        exact absurd hv found
      | succ i =>
        simp only [Rule.plainRun_cons_succ h] at applied found ⊢
        exact ⟨_, rfl, .violated (shift.1 before) (by simpa using here) applied found⟩
    | unfinished before found =>
      simp only [List.length_cons, Rule.plainRun_cons_succ h] at found ⊢
      exact ⟨_, rfl, .unfinished (shift.1 before) found⟩
    | finished before passed =>
      simp only [List.length_cons, Rule.plainRun_cons_succ h] at passed ⊢
      exact ⟨_, rfl, .finished (shift.1 before) passed⟩
  · -- the other way every place `i` of the shorter run is place `i + 1` of the longer one
    rintro ⟨later, rfl, ho⟩
    have entries_succ (n : Nat) : (r.apply stage "" source).entries ++
        (plainRun rs stage (r.apply stage "" source).text n).entries =
          (plainRun (r :: rs) stage source (n + 1)).entries := by
      rw [Rule.plainRun_cons_succ h]
    have text_succ (n : Nat) : (plainRun rs stage (r.apply stage "" source).text n).text =
        (plainRun (r :: rs) stage source (n + 1)).text := by
      rw [Rule.plainRun_cons_succ h]
    cases ho with
    | inapplicable before here raised =>
      rw [text_succ] at raised
      rw [entries_succ]
      exact .inapplicable (shift.2 before) (by simpa using here) raised
    | violated before here applied found =>
      rw [text_succ] at applied found ⊢
      rw [entries_succ]
      exact .violated (shift.2 before) (by simpa using here) applied found
    | unfinished before found =>
      rw [text_succ] at found ⊢
      rw [entries_succ]
      exact .unfinished (shift.2 before) found
    | finished before passed =>
      rw [text_succ] at passed ⊢
      rw [entries_succ]
      exact .finished (shift.2 before) passed

/-! ## The refinement -/

theorem run_cons_of_fault {fault : TemplateError}
    (h : (r.apply stage "" source).fault = some fault) :
    s.run (r :: rs) stage source = (s, .error (.inapplicable fault)) := by
  rw [run, step_of_error "" (apply_of_fault s.ledger h)]

theorem run_cons_of_violations (s : StrictRun) (rs : List Rule)
    (h : (r.apply stage "" source).fault = none)
    (hv : r.violations stage (r.apply stage "" source).text ≠ []) :
    (s.run (r :: rs) stage source).1.ledger = s.ledger ∧
      (s.run (r :: rs) stage source).2 =
        .error (.violated r.name (r.violations stage (r.apply stage "" source).text)) := by
  rw [run, step_of_violations "" (apply_of_applied s.ledger h) hv]
  exact ⟨rfl, rfl⟩

/-- After a step at which nothing happens, the run goes on from the text that the rule has left,
with the entries of the rule adopted. -/
theorem run_cons_of_smooth (s : StrictRun) (rs : List Rule)
    (h : (r.apply stage "" source).fault = none)
    (hv : r.violations stage (r.apply stage "" source).text = []) :
    ∃ next : StrictRun,
      next.ledger = s.ledger.recordAll (r.apply stage "" source).entries ∧
        s.run (r :: rs) stage source = next.run rs stage (r.apply stage "" source).text := by
  refine ⟨_, ?_, by rw [run, step_of_ok "" (apply_of_applied s.ledger h) hv]⟩
  rfl

/-- The outcome of a run is unique, and it is what the run adds and returns. -/
theorem exists_outcome_unique (s : StrictRun) (rules : List Rule) (stage : Stage) (source : Text) :
    ∃ added, (s.run rules stage source).1.ledger = s.ledger.recordAll added ∧
      ∀ entries result, Outcome rules stage source entries result ↔
        entries = added ∧ result = (s.run rules stage source).2 := by
  -- on the rules, for all runs and texts: the next rule starts from what this one leaves
  induction rules generalizing s source with
  | nil => exact ⟨[], by simp [run, finish, logged, Ledger.recordAll], fun _ _ ↦ outcome_nil⟩
  | cons r rs ih =>
    cases h : (r.apply stage "" source).fault with
    | some fault =>
      refine ⟨[], ?_, fun _ _ ↦ ?_⟩
      · simp [run_cons_of_fault h, Ledger.recordAll]
      · rw [outcome_cons_of_fault h, run_cons_of_fault h]
    | none =>
      by_cases hv : r.violations stage (r.apply stage "" source).text = []
      · obtain ⟨next, hledger, hrun⟩ := run_cons_of_smooth s rs h hv
        obtain ⟨added, hadded, hunique⟩ := ih next (r.apply stage "" source).text
        refine ⟨(r.apply stage "" source).entries ++ added, ?_, fun entries result ↦ ?_⟩
        · rw [hrun, hadded, hledger, Ledger.recordAll_append]
        · rw [outcome_cons_of_smooth h hv, hrun]
          simp only [hunique]
          constructor
          · rintro ⟨later, rfl, rfl, rfl⟩
            exact ⟨rfl, rfl⟩
          · rintro ⟨rfl, rfl⟩
            exact ⟨added, rfl, rfl, rfl⟩
      · obtain ⟨hledger, hresult⟩ := run_cons_of_violations s rs h hv
        refine ⟨[], by simp [hledger, Ledger.recordAll], fun _ _ ↦ ?_⟩
        rw [outcome_cons_of_violations h hv, hresult]

/-- **A strict run refines the plain run.** What it adds to its ledger and how it ends is the
outcome that the plain run determines, and nothing else. -/
theorem run_iff_outcome (s : StrictRun) (rules : List Rule) (stage : Stage) (source : Text)
    (entries : List Entry) (result : Except StrictFault Text) :
    ((s.run rules stage source).1.ledger = s.ledger.recordAll entries ∧
        (s.run rules stage source).2 = result) ↔
      Outcome rules stage source entries result := by
  obtain ⟨added, hadded, hunique⟩ := exists_outcome_unique s rules stage source
  rw [hunique, hadded]
  have hinj : s.ledger.recordAll added = s.ledger.recordAll entries ↔ entries = added := by
    simp [Ledger.recordAll, eq_comm]
  rw [hinj, @eq_comm _ result]

end StrictRun

end ShaderDowngrade

import Mathlib.Algebra.GroupWithZero.Nat
import Mathlib.Data.List.Chain
import ShaderDowngrade.StrictRun

/-!
# Histories of strict runs

A strict run may be called again and again, to take single steps and to go through whole chains,
and any of the calls may fail. Its ledger and its log both only grow, but not in step: a failed
step is logged and not adopted, a rule that cannot be applied is neither, and the check of a
finished text is logged and makes no entry.

Main statement: `StrictRun.history_sound`, what holds at every point of a history of calls, and
what each call leaves behind.

## What one call may do

A call moves the runner by steps and by checks of finished texts. Each of these moves leaves the
state as it is or logs one record, and adopts as many entries as the record says if nothing was
wrong (`StrictRun.Grows`). Growth is transitive, so all that is left for a history is an induction
on the calls.

## Which rules

Nothing is asked of the rules: they may be of any type, make any entries, also entries that do not
agree with each other or none at all, find anything wrong, and raise errors of any type. What a rule
does may depend on the ledger that it is given, and the calls of a history may use different rules.
-/

namespace ShaderDowngrade

/-- The number of entries that records without violations speak of. -/
def StepRecord.adopted (records : List StepRecord) : Nat :=
  ((records.filter (·.violations.isEmpty)).map StepRecord.entries).sum

namespace StrictRun

/-- A call of a strict runner. -/
inductive Call (ρ : Type) where
  /-- One rule, under a label of its own if the label is not empty. -/
  | step (rule : ρ) (stage : Stage) (label : String) (text : Text)
  /-- A whole chain, and the check of the text that it leaves. -/
  | run (rules : List ρ) (stage : Stage) (text : Text)

variable {ρ ε : Type} [RuleLike ρ ε]

/-- The state after a call, and what the call gives. -/
def call (s : StrictRun) : Call ρ → StrictRun × Except (StrictFault ε) Text
  | .step rule stage label text => s.step rule stage label text
  | .run rules stage text => s.run rules stage text

/-- The rules of a chain, without the check of the text that they leave. -/
def steps (s : StrictRun) : List ρ → Stage → Text → StrictRun × Except (StrictFault ε) Text
  | [], _, text => (s, .ok text)
  | r :: rs, stage, text =>
    match s.step r stage "" text with
    | (s, .error fault) => (s, .error fault)
    | (s, .ok output) => steps s rs stage output

/-- The states after the rules of a chain and after the check of the text that they leave. -/
def statesOfRun (s : StrictRun) : List ρ → Stage → Text → List StrictRun
  | [], stage, text => [s.logged (finalRecord stage text)]
  | r :: rs, stage, text =>
    match s.step r stage "" text with
    | (s, .error _) => [s]
    | (s, .ok output) => s :: statesOfRun s rs stage output

/-- The states that the runner goes through in a call. -/
def states (s : StrictRun) : Call ρ → List StrictRun
  | .step rule stage label text => [(s.step rule stage label text).1]
  | .run rules stage text => s.statesOfRun rules stage text

/-- The states that the runner goes through in calls one after the other, the first one included. -/
def history (s : StrictRun) : List (Call ρ) → List StrictRun
  | [] => [s]
  | c :: cs => s :: (s.states c ++ history (s.call c).1 cs)

/-! ## Growth -/

/-- The second state comes after the first: what was recorded and logged stays, and there are as
many more entries as the new records without violations say. -/
structure Grows (s t : StrictRun) : Prop where
  /-- Entries stay. -/
  entries_prefix : s.ledger.entries <+: t.ledger.entries
  /-- Records stay, and the new ones account for the new entries. -/
  exists_records : ∃ records, t.log = s.log ++ records ∧
    t.ledger.size = s.ledger.size + StepRecord.adopted records

variable {s t u : StrictRun} {r : ρ} {stage : Stage} {label : String} {text : Text}

theorem Grows.refl (s : StrictRun) : Grows s s :=
  ⟨List.prefix_refl _, [], (List.append_nil _).symm, rfl⟩

theorem adopted_append (rs qs : List StepRecord) :
    StepRecord.adopted (rs ++ qs) = StepRecord.adopted rs + StepRecord.adopted qs := by
  simp [StepRecord.adopted]

theorem adopted_singleton (r : StepRecord) :
    StepRecord.adopted [r] = if r.violations = [] then r.entries else 0 := by
  by_cases h : r.violations = []
  · simp [StepRecord.adopted, h]
  · simp [StepRecord.adopted, h]

theorem Grows.trans (h : Grows s t) (h' : Grows t u) : Grows s u := by
  obtain ⟨hentries, rs, hlog, hsize⟩ := h
  obtain ⟨hentries', qs, hlog', hsize'⟩ := h'
  refine ⟨hentries.trans hentries', rs ++ qs, ?_, ?_⟩
  · rw [hlog', hlog, List.append_assoc]
  · rw [hsize', hsize, adopted_append, Nat.add_assoc]

theorem grows_step (s : StrictRun) (r : ρ) (stage : Stage) (label : String) (text : Text) :
    Grows s (s.step r stage label text).1 := by
  rcases step_cases s r stage label text with ⟨fault, hstep⟩ | ⟨output, entries, hv, hstep⟩ |
    ⟨output, entries, hv, hstep⟩
  · rw [hstep]
    exact .refl s
  · have hrecord : (recordOf r stage label text output entries).violations = [] := hv
    rw [hstep]
    refine ⟨Ledger.entries_recordAll _ _, _, rfl, ?_⟩
    rw [Ledger.size_recordAll, adopted_singleton, if_pos hrecord]
    rfl
  · have hrecord : (recordOf r stage label text output entries).violations ≠ [] := hv
    rw [hstep]
    refine ⟨List.prefix_refl _, _, rfl, ?_⟩
    rw [adopted_singleton, if_neg hrecord, Nat.add_zero]
    rfl

theorem grows_finalRecord (s : StrictRun) (stage : Stage) (text : Text) :
    Grows s (s.logged (finalRecord stage text)) := by
  refine ⟨List.prefix_refl _, _, rfl, ?_⟩
  rw [adopted_singleton]
  exact (ite_self _).symm ▸ rfl

/-! ## What a call can do -/

theorem run_of_error {fault : StrictFault ε} (h : s.step r stage "" text = (t, .error fault))
    (rs : List ρ) :
    s.run (r :: rs) stage text = (t, .error fault) ∧
      s.steps (r :: rs) stage text = (t, .error fault) ∧
      s.statesOfRun (r :: rs) stage text = [t] := by
  rw [run, steps, statesOfRun, h]
  exact ⟨rfl, rfl, rfl⟩

theorem run_of_ok {output : Text} (h : s.step r stage "" text = (t, .ok output))
    (rs : List ρ) :
    s.run (r :: rs) stage text = t.run rs stage output ∧
      s.steps (r :: rs) stage text = t.steps rs stage output ∧
      s.statesOfRun (r :: rs) stage text = t :: t.statesOfRun rs stage output := by
  rw [run, steps, statesOfRun, h]
  exact ⟨rfl, rfl, rfl⟩

theorem pairwise_statesOfRun (s : StrictRun) (rules : List ρ) (stage : Stage) (text : Text) :
    (s :: s.statesOfRun rules stage text ++ [(s.run rules stage text).1]).Pairwise Grows := by
  induction rules generalizing s text with
  | nil =>
    have hgrows := grows_finalRecord s stage text
    simp [statesOfRun, run, finish, hgrows, Grows.refl]
  | cons r rs ih =>
    have hgrows := grows_step s r stage "" text
    match hstep : s.step r stage "" text with
    | (t, .error fault) =>
      obtain ⟨hrun, -, hstates⟩ := run_of_error hstep rs
      rw [hstep] at hgrows
      rw [hrun, hstates]
      simp [hgrows, Grows.refl]
    | (t, .ok output) =>
      obtain ⟨hrun, -, hstates⟩ := run_of_ok hstep rs
      have hlater := ih t output
      rw [hstep] at hgrows
      rw [hrun, hstates]
      refine List.pairwise_cons.2 ⟨?_, hlater⟩
      intro u hu
      rcases List.mem_cons.1 hu with rfl | hu
      · exact hgrows
      · exact hgrows.trans (List.rel_of_pairwise_cons hlater hu)

theorem pairwise_states (s : StrictRun) (c : Call ρ) :
    (s :: s.states c ++ [(s.call c).1]).Pairwise Grows := by
  match c with
  | .step r stage label text =>
    have hgrows := grows_step s r stage label text
    simp [states, call, hgrows, Grows.refl]
  | .run rules stage text => exact pairwise_statesOfRun s rules stage text

theorem pairwise_history (s : StrictRun) (calls : List (Call ρ)) :
    (s.history calls).Pairwise Grows ∧ ∀ t ∈ s.history calls, Grows s t := by
  induction calls generalizing s with
  | nil => simp [history, Grows.refl]
  | cons c cs ih =>
    obtain ⟨hlater, hfirst⟩ := ih (s.call c).1
    have hcall := pairwise_states s c
    rw [List.cons_append, List.pairwise_cons, List.pairwise_append] at hcall
    obtain ⟨hbefore, hstates, -, hafter⟩ := hcall
    have hend : Grows s (s.call c).1 := hbefore _ (by simp)
    have hall : ∀ t ∈ s.states c ++ (s.call c).1.history cs, Grows s t := by
      intro t ht
      rcases List.mem_append.1 ht with ht | ht
      · exact hbefore t (List.mem_append_left _ ht)
      · exact hend.trans (hfirst t ht)
    refine ⟨List.pairwise_cons.2 ⟨hall, List.pairwise_append.2 ⟨hstates, hlater, ?_⟩⟩, ?_⟩
    · exact fun t ht u hu ↦ (hafter t ht _ (by simp)).trans (hfirst u hu)
    · exact List.forall_mem_cons.2 ⟨.refl s, hall⟩

/-! ## What a call leaves behind -/

theorem eq_of_verdict_eq_error {step : String} {violations : List Violation} {output : Text}
    {fault : StrictFault ε} (h : verdict step violations output = .error fault) :
    fault = .violated step violations := by
  rw [verdict] at h
  split at h
  · cases h
  · exact (Except.error.inj h).symm

theorem getLast?_log_of_step_violated {step : String} {violations : List Violation}
    (h : (s.step r stage label text).2 = .error (.violated step violations)) :
    ∃ record, (s.step r stage label text).1.log.getLast? = some record ∧ record.step = step ∧
      record.violations = violations := by
  rcases step_cases s r stage label text with ⟨fault, hstep⟩ | ⟨output, entries, hv, hstep⟩ |
    ⟨output, entries, hv, hstep⟩
  · rw [hstep] at h
    cases h
  · rw [hstep] at h
    cases h
  · rw [hstep] at h ⊢
    obtain ⟨rfl, rfl⟩ := StrictFault.violated.inj (Except.error.inj h)
    exact ⟨_, List.getLast?_concat, rfl, rfl⟩

theorem getLast?_log_of_run_violated {rules : List ρ} {step : String}
    {violations : List Violation}
    (h : (s.run rules stage text).2 = .error (.violated step violations)) :
    ∃ record, (s.run rules stage text).1.log.getLast? = some record ∧ record.step = step ∧
      record.violations = violations := by
  induction rules generalizing s text with
  | nil =>
    obtain ⟨rfl, rfl⟩ := StrictFault.violated.inj (eq_of_verdict_eq_error h)
    exact ⟨_, List.getLast?_concat, rfl, rfl⟩
  | cons r rs ih =>
    match hstep : s.step r stage "" text with
    | (t, .error fault) =>
      rw [(run_of_error hstep rs).1] at h ⊢
      have hviolated : (s.step r stage "" text).2 = .error (.violated step violations) := by
        rw [hstep]
        exact h
      have hlast := getLast?_log_of_step_violated hviolated
      rwa [hstep] at hlast
    | (t, .ok output) =>
      rw [(run_of_ok hstep rs).1] at h ⊢
      exact ih h

/-- The text that one step leaves is as long as the one that the next step is offered. -/
def Linked (r q : StepRecord) : Prop := r.outputLength = q.inputLength

/-- What a run logs. -/
structure LoggedBy (s : StrictRun) (rules : List ρ) (stage : Stage) (text : Text)
    (records : List StepRecord) : Prop where
  /-- Each step is offered what the one before it has left. -/
  linked : records.IsChain Linked
  /-- The first step is offered the text of the run. -/
  head_inputLength : ∀ r ∈ records.head?, r.inputLength = text.length
  /-- If no rule fails, then all rules are logged, and the check of the text comes last. -/
  exists_final : ∀ t output, s.steps rules stage text = (t, .ok output) → ∃ front,
    records = front ++ [finalRecord stage output] ∧
      front.map StepRecord.step = rules.map RuleLike.name

theorem exists_records_of_run (s : StrictRun) (rules : List ρ) (stage : Stage) (text : Text) :
    ∃ records, (s.run rules stage text).1.log = s.log ++ records ∧
      LoggedBy s rules stage text records := by
  induction rules generalizing s text with
  | nil =>
    refine ⟨[finalRecord stage text], rfl, .singleton _, by simp [finalRecord], ?_⟩
    intro t output hsteps
    obtain ⟨-, houtput⟩ := Prod.mk.inj hsteps
    rw [Except.ok.inj houtput]
    exact ⟨[], rfl, rfl⟩
  | cons r rs ih =>
    rcases step_cases s r stage "" text with ⟨fault, hstep⟩ | ⟨left, entries, -, hstep⟩ |
      ⟨left, entries, -, hstep⟩
    · obtain ⟨hrun, hsteps, -⟩ := run_of_error hstep rs
      rw [hrun]
      refine ⟨[], (List.append_nil _).symm, .nil, by simp, ?_⟩
      intro t output h
      rw [hsteps] at h
      cases h
    · obtain ⟨hrun, hsteps, -⟩ := run_of_ok hstep rs
      obtain ⟨records, hlog, hlinked, hhead, hfinal⟩ := ih _ left
      refine ⟨recordOf r stage "" text left entries :: records, ?_,
        List.isChain_cons.2 ⟨fun q hq ↦ (hhead q hq).symm, hlinked⟩, by simp [recordOf], ?_⟩
      · rw [hrun, hlog, List.append_assoc, List.singleton_append]
      · intro t output h
        rw [hsteps] at h
        obtain ⟨front, rfl, hnames⟩ := hfinal t output h
        refine ⟨recordOf r stage "" text left entries :: front, rfl, ?_⟩
        rw [List.map_cons, List.map_cons, hnames]
        rfl
    · obtain ⟨hrun, hsteps, -⟩ := run_of_error hstep rs
      rw [hrun]
      refine ⟨[recordOf r stage "" text left entries], rfl, .singleton _, by simp [recordOf], ?_⟩
      intro t output h
      rw [hsteps] at h
      cases h

/-- What a call leaves behind. -/
structure Leaves (s : StrictRun) (c : Call ρ) : Prop where
  /-- What was wrong is logged last. -/
  of_violated : ∀ step violations, (s.call c).2 = .error (.violated step violations) →
    ∃ record, (s.call c).1.log.getLast? = some record ∧ record.step = step ∧
      record.violations = violations
  /-- A step that fails otherwise leaves no trace. -/
  of_inapplicable : ∀ rule stage label text fault, c = .step rule stage label text →
    (s.call c).2 = .error (.inapplicable fault) → (s.call c).1 = s
  /-- The log of a run hangs together. -/
  of_run : ∀ rules stage text, c = .run rules stage text →
    ∃ records, (s.call c).1.log = s.log ++ records ∧ LoggedBy s rules stage text records

theorem leaves (s : StrictRun) (c : Call ρ) : s.Leaves c where
  of_violated := by
    intro step violations h
    match c with
    | .step r stage label text => exact getLast?_log_of_step_violated h
    | .run rules stage text => exact getLast?_log_of_run_violated h
  of_inapplicable := by
    rintro r stage label text fault rfl h
    change (s.step r stage label text).2 = _ at h
    change (s.step r stage label text).1 = s
    rcases step_cases s r stage label text with ⟨fault, hstep⟩ | ⟨output, entries, hv, hstep⟩ |
      ⟨output, entries, hv, hstep⟩
    · rw [hstep]
    · rw [hstep] at h
      cases h
    · rw [hstep] at h
      cases h
  of_run := by
    rintro rules stage text rfl
    exact exists_records_of_run s rules stage text

/-! ## Histories -/

/-- **What holds along a history of calls**, with rules of any kind. A runner that starts on a
ledger, with an empty log, only ever adds entries and records. At every point its ledger holds the
entries that it started with, and as many more as its records without violations speak of; and each
call leaves behind what it should. -/
theorem history_sound (l : Ledger) (calls : List (Call ρ)) :
    (history { ledger := l } calls).Pairwise
        (fun s t ↦ s.ledger.entries <+: t.ledger.entries ∧ s.log <+: t.log) ∧
      (∀ t ∈ history { ledger := l } calls, l.entries <+: t.ledger.entries ∧
        t.ledger.size = l.size + StepRecord.adopted t.log) ∧
      ∀ (s : StrictRun) (c : Call ρ), s.Leaves c := by
  obtain ⟨hpairwise, hfirst⟩ := pairwise_history { ledger := l } calls
  refine ⟨hpairwise.imp ?_, ?_, leaves⟩
  · intro s t hst
    obtain ⟨records, hlog, -⟩ := hst.exists_records
    exact ⟨hst.entries_prefix, records, hlog.symm⟩
  · intro t ht
    obtain ⟨hentries, records, hlog, hsize⟩ := hfirst t ht
    rw [List.nil_append] at hlog
    rw [hlog]
    exact ⟨hentries, hsize⟩

end StrictRun

end ShaderDowngrade

import ShaderDowngrade.Proofs.Chain.Dropped
import ShaderDowngrade.Proofs.Command.Agreement

/-!
# Commands that fail

A command about a shader fails if the shader cannot be read, if its stage cannot be told, or if a
strict conversion finds something wrong. All of this is known before anything is printed or written:
the plan is made first, and the plan of a failure is one message. So a command that fails leaves the
disk as it was, the directories above the files that it was asked to write included.

Main statements: `Disk.command_fails`, what is left of a command that fails;
`Disk.exitCode_eq_one_iff`, nothing else ends a command with exit code 1 and a message.

## Failures and faults

A plan may also end early: a file cannot be written, or a message is faulty markup. Then files that
were written before stay, so these faults are not failures in the sense of this module. They are
told apart by the outcome, which names the fault.

A command line that is refused is no failure either. It is refused before any shader is read, even
if the shader could not have been read.
-/

namespace ShaderDowngrade

/-- The stage that the invocation gives. -/
def Invocation.stage? : Invocation → Option Stage
  | .convert _ stage .. | .trace _ stage .. => stage
  | .rules => none

/-- Whether the invocation asks for a strict conversion. -/
def Invocation.strict : Invocation → Bool
  | .convert _ _ _ strict _ => strict
  | .trace .. | .rules => false

/-- What is left of a command that fails with a message: the message, and nothing on the output. -/
def Outcome.failed (console : Console) (message : String) : Outcome :=
  { exitCode := 1, reported := console.plain (message.toList ++ ['\n']) }

namespace Disk

/-- The ways in which a command about a shader fails, each with its message. -/
inductive Fails (d : Disk) : Invocation → String → Prop
  /-- The shader is not there, is no file, or does not hold UTF-8. -/
  | unread {i : Invocation} {p : Path} {fault : SourceFault} (hpath : i.path? = some p)
      (hread : d.readText p = .error fault) :
      Fails d i ("Cannot read shader file " ++ p.toString ++ ": " ++ fault.message)
  /-- The stage is not given, and the suffix of the shader does not tell it. -/
  | unstaged {i : Invocation} {p : Path} {source : Text} (hpath : i.path? = some p)
      (hread : d.readText p = .ok source) (hstage : (i.stage? <|> Stage.ofPath? p) = none) :
      Fails d i ("Cannot tell the stage of " ++ p.toString ++
        " from its suffix; pass --stage vertex|fragment")
  /-- A strict conversion finds something wrong. -/
  | violated {p : Path} {given : Option Stage} {out ledger : Option Path} {source : Text}
      {stage : Stage} {step : String} {violations : List Violation}
      (hread : d.readText p = .ok source) (hstage : (given <|> Stage.ofPath? p) = some stage)
      (hrun : Conversion.run Chain.standard true stage source =
        .error (.violated step violations)) :
      Fails d (.convert p given out true ledger)
        (violationReport step (violations.map Violation.message))

variable {d : Disk} {i : Invocation} {p : Path} {message : String} {args : List String}
  {console : Console}

/-- The three conditions under which a command about a shader fails. Which of them are met besides
does not matter: the shader is read first, and its stage is told next. -/
theorem exists_fails (hpath : i.path? = some p)
    (h : (∃ fault, d.readText p = .error fault) ∨ (i.stage? <|> Stage.ofPath? p) = none ∨
      i.strict = true ∧ ∃ source stage step violations, d.readText p = .ok source ∧
        (i.stage? <|> Stage.ofPath? p) = some stage ∧
        Conversion.run Chain.standard true stage source = .error (.violated step violations)) :
    ∃ message, d.Fails i message := by
  rcases h with ⟨fault, hread⟩ | hstage | ⟨hstrict, source, stage, step, violations, hread, hstage,
    hrun⟩
  · exact ⟨_, .unread hpath hread⟩
  · cases hread : d.readText p with
    | error fault => exact ⟨_, .unread hpath hread⟩
    | ok source => exact ⟨_, .unstaged hpath hread hstage⟩
  · match i with
    | .convert q given out true ledger =>
      obtain rfl : q = p := Option.some.inj hpath
      exact ⟨_, .violated hread hstage hrun⟩

/-! ## The plan of a failure -/

theorem perform_failure (d : Disk) (message : String) :
    d.perform (Plan.failure console message).exitCode (Plan.failure console message).actions =
      (d, Outcome.failed console message) := by
  simp [Plan.failure, perform, Outcome.failed]

theorem Fails.plan_eq (h : d.Fails i message) :
    i.plan console (i.path?.elim (.ok []) d.readText) = Plan.failure console message := by
  cases h with
  | unread hpath hread =>
    rw [hpath, Option.elim_some, hread]
    match i with
    | .convert .. | .trace .. =>
      cases hpath
      rfl
  | unstaged hpath hread hstage =>
    rw [hpath, Option.elim_some, hread]
    match i with
    | .convert .. | .trace .. =>
      cases hpath
      rw [Invocation.stage?] at hstage
      rw [Invocation.plan, Plan.ofShader, hstage]
  | violated hread hstage hrun =>
    rw [Invocation.path?, Option.elim_some, hread, Invocation.plan, Plan.ofShader_eq hstage,
      Plan.ofConversion, hrun]

theorem Fails.execute_eq (h : d.Fails i message) :
    d.execute i console = (d, Outcome.failed console message) := by
  rw [execute, h.plan_eq]
  exact perform_failure d message

/-! ## Commands -/

/-- **Commands that fail.** If the shader cannot be read or is no UTF-8, or its stage is not given
and cannot be told from the suffix, or a strict conversion of its text finds something wrong, then
the command ends with exit code 1 and the message of such a failure, prints nothing to the output,
and leaves the disk as it is, whatever files it was asked to write. A command line that is refused
prints nothing to the output and leaves the disk as it is, too; its exit code is 2 if it is not
understood, and 1 if a path in it has a NUL. -/
theorem command_fails (hconsole : console.Lawful) (d : Disk) (args : List String) :
    (∀ i p, console.Accepts d.isUnreadable args i → i.path? = some p →
      ((∃ fault, d.readText p = .error fault) ∨ (i.stage? <|> Stage.ofPath? p) = none ∨
        i.strict = true ∧ ∃ source stage step violations, d.readText p = .ok source ∧
          (i.stage? <|> Stage.ofPath? p) = some stage ∧
          Conversion.run Chain.standard true stage source = .error (.violated step violations)) →
        ∃ message, d.Fails i message ∧
          d.command args console = (d, Outcome.failed console message)) ∧
      ∀ refusal, console.read d.isUnreadable args = .error refusal →
        let run := d.command args console
        run.1 = d ∧ run.2.printed = [] ∧ (refusal = .unclear → run.2.exitCode = 2) ∧
          ∀ p, refusal = .nul p → run.2.exitCode = 1 := by
  refine ⟨?_, ?_⟩
  · intro i p hargs hpath hwrong
    obtain ⟨message, hfails⟩ := exists_fails hpath hwrong
    exact ⟨message, hfails, by rw [command_eq hconsole hargs, hfails.execute_eq]⟩
  · intro refusal hrefused
    have hcommand : d.command args console = (d, .refused refusal) := by
      rw [command, hrefused]
    dsimp only
    rw [hcommand]
    rcases refusal with _ | q | q
    · exact ⟨rfl, rfl, fun _ ↦ rfl, by simp⟩
    · exact ⟨rfl, rfl, by simp, by simp⟩
    · exact ⟨rfl, rfl, by simp, fun _ _ ↦ rfl⟩

/-- Bytes that are no UTF-8, a suffix that tells no stage, and an input whose type is none: each
fails, whatever is to be written in a directory that is not there. -/
theorem command_fails_each_way :
    let source := Utf8.encode "in floin vec3 a;".toList
    let d : Disk :=
      { items := [(["work".toList], { node := .directory }),
          (["work".toList, "s.vs".toList], { node := .file source }),
          (["work".toList, "s.txt".toList], { node := .file source }),
          (["work".toList, "t.fs".toList], { node := .file [0xff] })] }
    (∀ args ∈ [["trace", "/work/t.fs", "--save", "/work/o/t"], ["convert", "s.txt", "--out", "o/s"],
        ["convert", "s.vs", "--out", "o/s", "--strict", "--ledger", "o/l"]],
      ∃ message, d.command args = (d, Outcome.failed .standard message)) ∧
    (d.command ["trace", "t\x00.vs"]).1 = d ∧ (d.command ["trace", "t\x00.vs"]).2.exitCode = 1 := by
  intro source d
  have hnameable : ∀ p ∈ ["/work/t.fs", "/work/o/t", "s.txt", "o/s", "s.vs", "o/l"],
      Path.Nameable d.isUnreadable p := by
    simp only [Path.Nameable]
    decide
  simp only [List.forall_mem_cons] at hnameable
  obtain ⟨hfirst, hfirstTo, hsecond, hsecondTo, hthird, hthirdTo, -⟩ := hnameable
  have hunread : Invocation.Written d.isUnreadable
      (Invocation.traceArgs "/work/t.fs" none false (some "/work/o/t")) _ :=
    .trace (by decide +kernel) hfirst (by simpa using hfirstTo)
  have hunstaged : Invocation.Written d.isUnreadable
      (Invocation.convertArgs "s.txt" none (some "o/s") false none) _ :=
    .convert (by decide +kernel) hsecond (by simpa using hsecondTo) (by simp)
  have hviolated : Invocation.Written d.isUnreadable
      (Invocation.convertArgs "s.vs" none (some "o/s") true (some "o/l")) _ :=
    .convert (by decide +kernel) hthird (by simpa using hsecondTo) (by simpa using hthirdTo)
  have hrun : Conversion.run Chain.standard true .vertex "in floin vec3 a;".toList =
      .error (.violated "VertexInputQualifier" [.patternPresent "VertexInputQualifier"
        "(in)\\s+(vec[0-9]|mat[0-9]|float)"]) := by decide +kernel
  have htext (name : String) (h : d.read (.ofString name) = .ok source) :
      d.readText (.ofString name) = .ok "in floin vec3 a;".toList :=
    (readText_eq_ok h (Utf8.decode_encode _)).trans (by decide +kernel)
  have hfails (args : List String) := command_fails Console.lawful_standard d args
  refine ⟨List.forall_mem_cons.2 ⟨?_, List.forall_mem_cons.2 ⟨?_, List.forall_mem_singleton.2 ?_⟩⟩,
    ?_⟩
  · exact ((hfails _).1 _ _ (.inl hunread) rfl (.inl ⟨_, rfl⟩)).imp fun _ h ↦ h.2
  · exact ((hfails _).1 _ _ (.inl hunstaged) rfl (.inr (.inl rfl))).imp fun _ h ↦ h.2
  · exact ((hfails _).1 _ _ (.inl hviolated) rfl
      (.inr (.inr ⟨rfl, _, _, _, _, htext _ rfl, rfl, hrun⟩))).imp fun _ h ↦ h.2
  · obtain ⟨hsame, -, -, hcode⟩ := (hfails ["trace", "t\x00.vs"]).2 (.nul (.ofString "t\x00.vs"))
      (by decide +kernel)
    exact ⟨hsame, hcode _ rfl⟩

/-- Not every shader that cannot be read makes a command end with exit code 1. A command line is
refused before its shader is read, be it that the path is taken for an option, that there is no
stage of the name, or that the shader is there and may not be read. -/
theorem command_refused_shaders :
    let d : Disk :=
      { items := [(["work".toList], { node := .directory }),
          (["work".toList, "s.frag".toList],
            { node := .file [], permissions := { read := false } })] }
    (d.readText (.ofString "-s.frag") = .error (.file ⟨.path .notFound, .ofString "-s.frag"⟩) ∧
      d.command ["convert", "-s.frag"] = (d, { exitCode := 2 })) ∧
    (d.readText (.ofString "t.frag") = .error (.file ⟨.path .notFound, .ofString "t.frag"⟩) ∧
      d.command ["convert", "t.frag", "--stage", "pixel"] = (d, { exitCode := 2 })) ∧
    d.readText (.ofString "s.frag") = .error (.file ⟨.permission, .ofString "s.frag"⟩) ∧
      d.command ["convert", "s.frag"] = (d, { exitCode := 2 }) := by
  decide +kernel

/-! ## Nothing else ends so -/

theorem exitCode_perform {actions : List Action} (h : (d.perform 0 actions).2.fault = none) :
    (d.perform 0 actions).2.exitCode = 0 := by
  induction actions generalizing d with
  | nil => rfl
  | cons a actions ih =>
    match a with
    | .print text | .report text => exact ih h
    | .save path text =>
      rw [perform] at h ⊢
      split at h
      · exact ih h
      · cases h
    | .stop fault => cases h

theorem exitCode_ofConversion_plain {stage : Stage} {source : Text} {next : Conversion → Plan}
    (h : ∀ c, (next c).exitCode = 0) :
    (Plan.ofConversion console false stage source next).exitCode = 0 := by
  have hfault : (Rule.applyAll Chain.standard stage "" source).fault = none :=
    Rule.fault_applyAll Chain.applicable_standard
  rw [Plan.ofConversion, Conversion.run_plain hfault]
  exact h _

/-- A command about a shader fails before it comes to the conversion, or goes on with a text and a
stage. -/
theorem fails_or_exitCode_ofShader {p : Path} {next : Text → Stage → Plan}
    (hpath : i.path? = some p)
    (h : ∀ source, d.readText p = .ok source → ∀ stage,
      (i.stage? <|> Stage.ofPath? p) = some stage →
        (∃ message, d.Fails i message) ∨ (next source stage).exitCode = 0) :
    (∃ message, d.Fails i message) ∨
      (Plan.ofShader console p i.stage? (d.readText p) next).exitCode = 0 := by
  match hread : d.readText p with
  | .error fault => exact .inl ⟨_, .unread hpath hread⟩
  | .ok source =>
    match hstage : i.stage? <|> Stage.ofPath? p with
    | none => exact .inl ⟨_, .unstaged hpath hread hstage⟩
    | some stage =>
      rw [Plan.ofShader_eq hstage]
      exact h source hread stage hstage

theorem fails_or_exitCode_plan (d : Disk) (i : Invocation) : (∃ message, d.Fails i message) ∨
    (i.plan console (i.path?.elim (.ok []) d.readText)).exitCode = 0 := by
  match i with
  | .rules => exact .inr rfl
  | .convert p given out strict ledger =>
    refine fails_or_exitCode_ofShader rfl ?_
    intro source hread stage hstage
    match strict with
    | true =>
      rcases Conversion.run_strict_eq_violated_or_ok Chain.applicable_standard source with
        ⟨step, violations, hrun⟩ | ⟨c, hrun, -⟩
      · exact .inl ⟨_, .violated hread hstage hrun⟩
      · refine .inr ?_
        rw [Plan.ofConversion, hrun]
        rfl
    | false => exact .inr (exitCode_ofConversion_plain fun _ ↦ rfl)
  | .trace p given json saveTo =>
    refine fails_or_exitCode_ofShader rfl ?_
    intro source hread stage hstage
    exact .inr (exitCode_ofConversion_plain fun _ ↦ rfl)

/-- **Exit code 1 without a fault** is that of a failure. -/
theorem exitCode_eq_one_iff (hconsole : console.Lawful)
    (hargs : console.Accepts d.isUnreadable args i) :
    (d.command args console).2.exitCode = 1 ∧ (d.command args console).2.fault = none ↔
      ∃ message, d.Fails i message := by
  rw [command_eq hconsole hargs]
  constructor
  · rintro ⟨hcode, hfault⟩
    refine (@fails_or_exitCode_plan console d i).resolve_right fun hplan ↦ ?_
    rw [execute, hplan] at hcode hfault
    exact absurd (exitCode_perform hfault) (by rw [hcode]; decide)
  · rintro ⟨message, hfails⟩
    rw [hfails.execute_eq]
    exact ⟨rfl, rfl⟩

end Disk

end ShaderDowngrade

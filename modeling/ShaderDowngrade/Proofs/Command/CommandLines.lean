import ShaderDowngrade.Command.Invocation

/-!
# Command lines that are written out

An invocation can be written out: the command, the path of the shader, and the options that it
needs, one after the other. Read again, such a command line gives the invocation, if the path of the
shader does not look like an option, and if no path has a NUL or leads to something that may not be
read. What the values of the options look like does not matter, since a value is not taken for an
option.

Main statement: `Invocation.Written.ofArgs_eq`, what is written out is understood.

## Other spellings

There are more ways to ask for an invocation: options in front of the path, a value joined to its
option by an equals sign, an option that is named twice. What is written out is one spelling of
each, and nothing is said here about the others.
-/

namespace ShaderDowngrade

/-- What is asked of a path that a command line names: it has no NUL, and it does not lead to
something that may not be read. -/
def Path.Nameable (isUnreadable : String → Bool) (written : String) : Prop :=
  (Path.ofString written).hasNul = false ∧ isUnreadable written = false

namespace Invocation

/-- The command line of a conversion, written out. -/
def convertArgs (path : String) (stage : Option Stage) (out : Option String) (strict : Bool)
    (ledger : Option String) : List String :=
  "convert" :: path :: (stage.map Stage.name).elim [] (fun s ↦ ["--stage", s]) ++
    out.elim [] (fun p ↦ ["--out", p]) ++ (if strict then ["--strict"] else []) ++
    ledger.elim [] fun p ↦ ["--ledger", p]

/-- The command line of a trace, written out. -/
def traceArgs (path : String) (stage : Option Stage) (json : Bool) (saveTo : Option String) :
    List String :=
  "trace" :: path :: (stage.map Stage.name).elim [] (fun s ↦ ["--stage", s]) ++
    (if json then ["--json"] else []) ++ saveTo.elim [] fun p ↦ ["--save", p]

/-- The arguments are the invocation written out, and nothing about its paths stands in the way. -/
inductive Written (isUnreadable : String → Bool) : List String → Invocation → Prop
  | convert {path : String} {stage : Option Stage} {out : Option String} {strict : Bool}
      {ledger : Option String} (hoption : Arguments.isOption path = false)
      (hpath : Path.Nameable isUnreadable path) (hout : ∀ p ∈ out, Path.Nameable isUnreadable p)
      (hledger : ∀ p ∈ ledger, Path.Nameable isUnreadable p) :
      Written isUnreadable (convertArgs path stage out strict ledger)
        (.convert (.ofString path) stage (out.map .ofString) strict (ledger.map .ofString))
  | trace {path : String} {stage : Option Stage} {json : Bool} {saveTo : Option String}
      (hoption : Arguments.isOption path = false) (hpath : Path.Nameable isUnreadable path)
      (hsaveTo : ∀ p ∈ saveTo, Path.Nameable isUnreadable p) :
      Written isUnreadable (traceArgs path stage json saveTo)
        (.trace (.ofString path) stage json (saveTo.map .ofString))

end Invocation

namespace Arguments

variable {isUnreadable : String → Bool} {valued flags rest : List String} {name arg path : String}
  {value : Option String} {a : Arguments}

/-! ## Sorting -/

theorem sort_position (h : isOption arg = false) : sort valued flags (arg :: rest) =
    (sort valued flags rest).map fun a ↦ { a with positions := arg :: a.positions } := by
  have hdashes : arg ≠ "--" := by
    rintro rfl
    have hoption : isOption "--" = true := by decide +kernel
    exact Bool.false_ne_true (h.symm.trans hoption)
  rw [sort, if_neg (Bool.eq_false_iff.1 h)]
  exact hdashes

/-- The name of an option stands alone: nothing is joined to it by an equals sign. -/
def StandsAlone (name : String) : Prop :=
  isOption name = true ∧ name ≠ "--" ∧ splitOption name = (name, none)

instance (name : String) : Decidable (StandsAlone name) := inferInstanceAs (Decidable (_ ∧ _ ∧ _))

theorem sort_option (hname : StandsAlone name) (hvalued : name ∈ valued) (hflags : name ∉ flags)
    (value : Option String) :
    sort valued flags (value.elim [] (fun v ↦ [name, v]) ++ rest) = (sort valued flags rest).map
      fun a ↦ { a with values := value.toList.map (name, ·) ++ a.values } := by
  obtain ⟨hoption, hdashes, hsplit⟩ := hname
  match value with
  | none => simp
  | some v =>
    simp only [Option.elim_some, List.cons_append, List.nil_append]
    rw [sort, if_pos hoption, hsplit]
    · dsimp only
      rw [if_neg hflags, if_pos hvalued]
      rfl
    · exact hdashes

theorem sort_flag (hname : StandsAlone name) (hflags : name ∈ flags) (given : Bool) :
    sort valued flags ((if given then [name] else []) ++ rest) = (sort valued flags rest).map
      fun a ↦ { a with flags := (if given then [name] else []) ++ a.flags } := by
  obtain ⟨hoption, hdashes, hsplit⟩ := hname
  match given with
  | false => simp
  | true =>
    simp only [if_true, List.cons_append, List.nil_append]
    rw [sort, if_pos hoption, hsplit]
    · dsimp only
      rw [if_pos hflags]
    · exact hdashes

/-! ## Values -/

@[simp]
theorem lookup_option (name named : String) (value : Option String) :
    (value.toList.map (named, ·)).reverse.lookup name = if name = named then value else none := by
  match value with
  | none => simp
  | some v =>
    by_cases hname : name = named
    · simp [hname]
    · simp [List.lookup_cons, beq_eq_false_iff_ne.2 hname, hname]

theorem contains_flag (name : String) (given : Bool) :
    (if given then [name] else []).contains name = given := by
  match given with
  | false => rfl
  | true => simp

theorem readPath_eq (h : Path.Nameable isUnreadable path) :
    readPath isUnreadable path = .ok (.ofString path) := by
  rw [readPath, h.1, h.2]
  rfl

theorem path_eq (h : a.value? name = value) (hpaths : ∀ p ∈ value, Path.Nameable isUnreadable p) :
    a.path isUnreadable name = .ok (value.map .ofString) := by
  rw [path, option, h]
  match value with
  | none => rfl
  | some p =>
    dsimp only
    rw [readPath_eq (hpaths p rfl)]
    rfl

theorem stage_eq {stage : Option Stage} (h : a.value? "--stage" = stage.map Stage.name) :
    a.stage = .ok stage := by
  rw [Arguments.stage, option, h]
  match stage with
  | none => rfl
  | some s =>
    rw [Option.map_some]
    dsimp only
    rw [Stage.ofName?_name]
    rfl

theorem check_stage {stage : Option Stage} (h : a.stage = .ok stage) :
    a.check isUnreadable "--stage" = .ok () := by
  rw [check, if_pos rfl, h]
  rfl

theorem check_path {path : Option Path} (hname : name ≠ "--stage")
    (h : a.path isUnreadable name = .ok path) : a.check isUnreadable name = .ok () := by
  rw [check, if_neg hname, h]
  rfl

theorem forM_check_eq {names : List String}
    (h : ∀ name ∈ names, a.check isUnreadable name = .ok ()) :
    names.forM (a.check isUnreadable) = .ok () := by
  induction names with
  | nil => rfl
  | cons name names ih =>
    obtain ⟨hname, hothers⟩ := List.forall_mem_cons.1 h
    rw [List.forM, hname]
    exact ih hothers

/-- Arguments whose options are known and have values that are right for them. -/
theorem read_eq {stage : Option Stage} (hsort : sort valued flags rest = some a)
    (hvalued : ∀ v ∈ a.values, v.1 ∈ valued) (hstage : a.stage = .ok stage)
    (hpaths : ∀ name ∈ valued, name ≠ "--stage" → ∃ path, a.path isUnreadable name = .ok path) :
    read isUnreadable valued flags rest = .ok a := by
  have hcheck : ∀ name ∈ a.named, a.check isUnreadable name = .ok () := by
    intro name hname
    by_cases hnamed : name = "--stage"
    · rw [hnamed]
      exact check_stage hstage
    · obtain ⟨v, hv, rfl⟩ := List.mem_map.1 (List.mem_eraseDups.1 hname)
      obtain ⟨path, hpath⟩ := hpaths v.1 (hvalued v hv) hnamed
      exact check_path hnamed hpath
  rw [read, hsort]
  dsimp only
  rw [checked, forM_check_eq hcheck]
  rfl

theorem shader_eq (hpath : Path.Nameable isUnreadable path) (h : a.positions = [path]) :
    a.shader isUnreadable = .ok (.ofString path) := by
  rw [shader, h]
  dsimp only
  rw [readPath_eq hpath]
  rfl

end Arguments

/-! ## Invocations -/

namespace Invocation

variable {isUnreadable : String → Bool} {path : String} {out ledger saveTo : Option String}

theorem ofArgs_convertArgs (stage : Option Stage) (strict : Bool)
    (hoption : Arguments.isOption path = false) (hpath : Path.Nameable isUnreadable path)
    (hout : ∀ p ∈ out, Path.Nameable isUnreadable p)
    (hledger : ∀ p ∈ ledger, Path.Nameable isUnreadable p) :
    ofArgs isUnreadable (convertArgs path stage out strict ledger) =
      .ok (.convert (.ofString path) stage (out.map .ofString) strict (ledger.map .ofString)) := by
  let a : Arguments :=
    { positions := [path]
      values := (stage.map Stage.name).toList.map ("--stage", ·) ++
        (out.toList.map ("--out", ·) ++ ledger.toList.map ("--ledger", ·))
      flags := if strict then ["--strict"] else [] }
  have hsort : Arguments.sort ["--stage", "--out", "--ledger"] ["--strict"]
      (convertArgs path stage out strict ledger).tail = some a := by
    rw [convertArgs]
    simp only [List.cons_append, List.tail_cons, List.append_assoc]
    rw [Arguments.sort_position hoption,
      Arguments.sort_option (by decide +kernel) (by decide) (by decide),
      Arguments.sort_option (by decide +kernel) (by decide) (by decide),
      Arguments.sort_flag (by decide +kernel) (by decide),
      ← List.append_nil (Option.elim ledger _ _),
      Arguments.sort_option (by decide +kernel) (by decide) (by decide)]
    simp [Arguments.sort, a]
  have hvalue (name : String) : a.value? name = (if name = "--ledger" then ledger else none).or
      ((if name = "--out" then out else none).or
        (if name = "--stage" then stage.map Stage.name else none)) := by
    simp [a, Arguments.value?, List.lookup_append]
  have hshader : a.shader isUnreadable = .ok (.ofString path) := Arguments.shader_eq hpath rfl
  have hstage : a.stage = .ok stage := Arguments.stage_eq (by simp [hvalue])
  have hout' : a.path isUnreadable "--out" = .ok (out.map .ofString) :=
    Arguments.path_eq (by simp [hvalue]) hout
  have hledger' : a.path isUnreadable "--ledger" = .ok (ledger.map .ofString) :=
    Arguments.path_eq (by simp [hvalue]) hledger
  have hflag : a.flags.contains "--strict" = strict := Arguments.contains_flag _ strict
  have hread := Arguments.read_eq hsort (by simp [a, or_imp, forall_and]) hstage
    (by simpa using ⟨⟨_, hout'⟩, ⟨_, hledger'⟩⟩)
  have hcommand : ofArgs isUnreadable (convertArgs path stage out strict ledger) =
      ofArgs.ofCommand isUnreadable "convert" (convertArgs path stage out strict ledger).tail := rfl
  rw [hcommand, ofArgs.ofCommand, hread]
  simp only [bind, Except.bind, hshader, hstage, hout', hledger', hflag]
  rfl

theorem ofArgs_traceArgs (stage : Option Stage) (json : Bool)
    (hoption : Arguments.isOption path = false) (hpath : Path.Nameable isUnreadable path)
    (hsaveTo : ∀ p ∈ saveTo, Path.Nameable isUnreadable p) :
    ofArgs isUnreadable (traceArgs path stage json saveTo) =
      .ok (.trace (.ofString path) stage json (saveTo.map .ofString)) := by
  let a : Arguments :=
    { positions := [path]
      values := (stage.map Stage.name).toList.map ("--stage", ·) ++
        saveTo.toList.map ("--save", ·)
      flags := if json then ["--json"] else [] }
  have hsort : Arguments.sort ["--stage", "--save"] ["--json"]
      (traceArgs path stage json saveTo).tail = some a := by
    rw [traceArgs]
    simp only [List.cons_append, List.tail_cons, List.append_assoc]
    rw [Arguments.sort_position hoption,
      Arguments.sort_option (by decide +kernel) (by decide) (by decide),
      Arguments.sort_flag (by decide +kernel) (by decide),
      ← List.append_nil (Option.elim saveTo _ _),
      Arguments.sort_option (by decide +kernel) (by decide) (by decide)]
    simp [Arguments.sort, a]
  have hvalue (name : String) : a.value? name = (if name = "--save" then saveTo else none).or
      (if name = "--stage" then stage.map Stage.name else none) := by
    simp [a, Arguments.value?, List.lookup_append]
  have hshader : a.shader isUnreadable = .ok (.ofString path) := Arguments.shader_eq hpath rfl
  have hstage : a.stage = .ok stage := Arguments.stage_eq (by simp [hvalue])
  have hsaveTo' : a.path isUnreadable "--save" = .ok (saveTo.map .ofString) :=
    Arguments.path_eq (by simp [hvalue]) hsaveTo
  have hflag : a.flags.contains "--json" = json := Arguments.contains_flag _ json
  have hread := Arguments.read_eq hsort (by simp [a, or_imp, forall_and]) hstage
    (by simpa using ⟨_, hsaveTo'⟩)
  have hcommand : ofArgs isUnreadable (traceArgs path stage json saveTo) =
      ofArgs.ofCommand isUnreadable "trace" (traceArgs path stage json saveTo).tail := rfl
  rw [hcommand, ofArgs.ofCommand, hread]
  simp only [bind, Except.bind, hshader, hstage, hsaveTo', hflag]
  rfl

/-- **What is written out is understood.** -/
theorem Written.ofArgs_eq {args : List String} {i : Invocation}
    (h : Written isUnreadable args i) : ofArgs isUnreadable args = .ok i := by
  match h with
  | .convert hoption hpath hout hledger => exact ofArgs_convertArgs _ _ hoption hpath hout hledger
  | .trace hoption hpath hsaveTo => exact ofArgs_traceArgs _ _ hoption hpath hsaveTo

end Invocation

end ShaderDowngrade

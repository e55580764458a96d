import ShaderDowngrade.Proofs.Chain.Growth
import ShaderDowngrade.Proofs.Command.Outcomes
import ShaderDowngrade.Proofs.Report.PrintedTrace
import ShaderDowngrade.Proofs.StrictEnding

/-!
# Commands and conversions

A shader reaches what it becomes on several ways: printed, in a file, told by a ledger in another
file, told by a printed trace, strictly or not. All of them start with the bytes of one file, and
all of them come to what the conversion of its text gives.

Main statement: `Chain.commands_agree`.

## What has to be ruled out

Two paths may lead to one file, in the end if not from the start, and then the ledger replaces the
output. A path with an opening bracket in it may be taken for markup, which may be faulty. An escape
may begin a control sequence, which is not printed. And a count of thousands of digits would not be
read back; no file is long enough for that.

Not every command line is understood, either: a path that begins with a hyphen looks like an option,
and a path to an old file that may not be read is refused, even if the file is only to be written.
-/

namespace ShaderDowngrade

variable {d : Disk} {p : Path} {source : Text} {given : Option Stage} {stage : Stage}
  {out ledger : Option Path} {c : Conversion} {console : Console}

/-! ## Reading the shader -/

theorem Disk.readText_eq_ok {bytes : List UInt8} {decoded : Text} (hread : d.read p = .ok bytes)
    (hdecode : Utf8.decode bytes = .ok decoded) :
    d.readText p = .ok (Utf8.unifyNewlines decoded) := by
  have hsource : sourceText bytes = .ok (Utf8.unifyNewlines decoded) := by
    rw [sourceText, hdecode]
    rfl
  rw [readText, hread]
  exact hsource

theorem Disk.nameable_of_read {written : String} {bytes : List UInt8}
    (h : d.read (.ofString written) = .ok bytes) : Path.Nameable d.isUnreadable written := by
  obtain ⟨q, permissions, hplace, hitem, hread⟩ := read_eq_ok_iff.1 h
  refine ⟨(place_eq_ok_iff.1 hplace).1.1, ?_⟩
  rw [isUnreadable, itemWritten?]
  split
  · rfl
  · rw [hplace]
    dsimp only
    rw [hitem]
    dsimp only
    split
    · rfl
    · simp [hread]

theorem Plan.ofShader_eq (hstage : (given <|> Stage.ofPath? p) = some stage)
    (next : Text → Stage → Plan) :
    ofShader console p given (.ok source) next = next source stage := by
  rw [ofShader, hstage]

theorem Disk.execute_eq {i : Invocation} {plan : Plan} (hread : d.readText p = .ok source)
    (hpath : i.path? = some p) (hplan : i.plan console (.ok source) = plan) :
    d.execute i console = d.perform plan.exitCode plan.actions := by
  rw [execute, hpath, Option.elim_some, hread, hplan]

theorem Disk.execute_convert (hread : d.readText p = .ok source)
    (hstage : (given <|> Stage.ofPath? p) = some stage) (strict : Bool) :
    d.execute (.convert p given out strict ledger) console =
      let plan := Plan.ofConversion console strict stage source (Plan.convert console p out ledger)
      d.perform plan.exitCode plan.actions := by
  refine execute_eq hread rfl ?_
  rw [Invocation.plan]
  exact Plan.ofShader_eq hstage _

theorem Disk.execute_trace (hread : d.readText p = .ok source)
    (hstage : (given <|> Stage.ofPath? p) = some stage) (json : Bool) (saveTo : Option Path) :
    d.execute (.trace p given json saveTo) console =
      let plan := Plan.ofConversion console false stage source (Plan.trace console json saveTo)
      d.perform plan.exitCode plan.actions := by
  refine execute_eq hread rfl ?_
  rw [Invocation.plan]
  exact Plan.ofShader_eq hstage _

theorem Disk.command_eq {args : List String} {i : Invocation} (hconsole : console.Lawful)
    (h : console.Accepts d.isUnreadable args i) : d.command args console = d.execute i console := by
  rw [command, hconsole.read_of_accepts h]

/-! ## Strictly or not -/

theorem Conversion.run_strict_eq_or {rules : List Rule}
    (h : Conversion.run rules false stage source = .ok c) :
    Conversion.run rules true stage source = .ok { c with strict := true } ∨
      ∃ fault, Conversion.run rules true stage source = .error fault := by
  rw [Conversion.run, if_neg Bool.false_ne_true] at h
  rw [Conversion.run_strict]
  dsimp only at h
  split at h
  · cases h
  · obtain rfl := Except.ok.inj h
    cases StrictRun.ending rules stage source with
    | ok _ => exact .inl rfl
    | error fault => exact .inr ⟨fault, rfl⟩

/-! ## What the commands leave -/

/-- A run of a command that ends well leaves what a conversion gives: its output is printed, or is
in a file if there is one for it, and its ledger is in a file if there is one for it. -/
structure Conversion.LeftBy (c : Conversion) (out ledger : Option Path) (run : Disk × Outcome) :
    Prop where
  exitCode : run.2.exitCode = 0
  printed : run.2.printed = if out.isNone then c.output else []
  out : ∀ o ∈ out, run.1.read o = .ok (Utf8.encode c.output)
  ledger : ∀ l ∈ ledger, Ledger.load run.1 l = .ok c.ledger

/-- A plan in which nothing gives up leaves what the conversion gives. -/
theorem Conversion.leftBy_perform (hconsole : console.Lawful)
    (hgo : ∀ a ∈ (Plan.convert console p out ledger c).actions, a.stops = false)
    (htakes : d.Takes (c.files out ledger)) (hescape : '\x1b' ∉ c.output)
    (hportable : c.ledger.Portable) :
    c.LeftBy out ledger (d.perform 0 (Plan.convert console p out ledger c).actions) := by
  have hsaved := htakes.saved
  rw [← @Plan.filterMap_convert console p] at hsaved
  obtain ⟨reported, hperform⟩ := Disk.perform_eq hgo hsaved 0
  have hread (q : Path) (text : Text) (hmem : (q, text) ∈ c.files out ledger) :
      (d.saveAll (c.files out ledger)).1.read q = .ok (Utf8.encode text) :=
    htakes.read_saveAll (q, text) hmem
  rw [Plan.filterMap_convert, Plan.flatMap_convert, hconsole.plain_eq _ hescape] at hperform
  rw [hperform]
  refine ⟨rfl, rfl, fun o ho ↦ hread o c.output ?_, fun l hl ↦ ?_⟩
  · rw [Option.mem_def.1 ho]
    exact List.mem_append_left _ (List.mem_singleton_self _)
  · refine Ledger.load_of_read hportable (hread l _ ?_)
    rw [Option.mem_def.1 hl]
    exact List.mem_append_right _ (List.mem_singleton_self _)

theorem Disk.perform_refused {fault : StrictFault} {next : Conversion → Plan}
    (h : Conversion.run Chain.standard true stage source = .error fault) :
    let plan := Plan.ofConversion console true stage source next
    (d.perform plan.exitCode plan.actions).1 = d ∧
      (d.perform plan.exitCode plan.actions).2.exitCode = 1 ∧
      (d.perform plan.exitCode plan.actions).2.printed = [] := by
  rw [Plan.ofConversion, h]
  match fault with
  | .violated step violations => exact ⟨rfl, rfl, rfl⟩
  | .inapplicable _ => exact ⟨rfl, rfl, rfl⟩

/-- What a trace prints does not depend on whether it can be saved. -/
theorem Disk.printed_perform_trace (hconsole : console.Lawful) (saveTo : Option Path)
    (hescape : '\x1b' ∉ c.trace.encode.toList ++ ['\n']) :
    (d.perform 0 (Plan.trace console true saveTo c).actions).2.printed =
      c.trace.encode.toList ++ ['\n'] := by
  rw [Plan.trace]
  dsimp only
  rw [if_pos rfl, hconsole.plain_eq _ hescape, perform]
  rcases saveTo with _ | q
  · exact List.append_nil _
  · change _ ++ (d.perform 0 [.save q c.trace.encode.toList]).2.printed = _
    rw [perform]
    split
    · exact List.append_nil _
    · exact List.append_nil _

namespace Chain

/-- The conversion of a text without escapes, and what is known of it. -/
theorem exists_run_plain (stage : Stage) (hescape : '\x1b' ∉ source)
    (hlength : source.length < 10 ^ 200) :
    ∃ c, Conversion.run standard false stage source = .ok c ∧ c.output = downgrade stage source ∧
      '\x1b' ∉ c.output ∧ c.ledger.Portable ∧ ∀ r ∈ c.firedRules, '[' ∉ r.toText := by
  have hfault := (within_standard stage (le_refl 1) hescape).fault
  have hrun := Conversion.run_plain hfault
  have hclean := escape_notMem_downgrade stage hescape
  have hportable := portable_standard stage hescape hlength
  obtain ⟨forest, hlists⟩ := Rule.exists_listsAll standard "" source hfault
  rw [downgrade] at hclean ⊢
  -- what the rules of the chain do plays no part from here on
  generalize Rule.applyAll standard stage "" source = run at hrun hclean hportable hlists ⊢
  refine ⟨_, hrun, rfl, hclean, hportable, ?_⟩
  have hnames : ∀ r ∈ Rule.nestedAll standard, '[' ∉ r.name.toList := by decide +kernel
  intro name hname
  obtain ⟨e, he, rfl⟩ := List.mem_map.1 hname
  have hentry := (List.mem_filter.1 he).1
  rw [← hlists.entries_eq] at hentry
  obtain ⟨x, hx, rfl⟩ := List.mem_map.1 hentry
  rw [(hlists.faithful x hx).identifies.1, CodeString.toText_ofString]
  exact hnames _ (hlists.rule_mem x hx)

/-- **The commands agree with the conversion.** A shader file holds UTF-8, and its text has no
escapes. Then the text has a conversion at each stage, and whatever a command line for the stage
asks for, as long as the disk takes the files, `convert` leaves what the conversion gives; only a
strict run may be refused instead, with exit code 1, and then nothing has been printed or written.
The entries that `trace` prints as JSON, read back, are those of the ledger. -/
theorem commands_agree (hconsole : console.Lawful) {bytes : List UInt8} {decoded : Text}
    (stage : Stage) (hread : d.read p = .ok bytes) (hdecode : Utf8.decode bytes = .ok decoded)
    (hescape : '\x1b' ∉ Utf8.unifyNewlines decoded)
    (hlength : (Utf8.unifyNewlines decoded).length < 10 ^ 200) (hname : '[' ∉ p.name) :
    ∃ c, Conversion.run standard false stage (Utf8.unifyNewlines decoded) = .ok c ∧
      c.output = downgrade stage (Utf8.unifyNewlines decoded) ∧
      (∀ args given out strict ledger,
        console.Accepts d.isUnreadable args (.convert p given out strict ledger) →
        (given <|> Stage.ofPath? p) = some stage →
        (∀ q ∈ out.toList ++ ledger.toList, '[' ∉ q.toString.toList) →
        d.Takes (c.files out ledger) →
          let run := d.command args console
          c.LeftBy out ledger run ∨
            strict = true ∧ run.1 = d ∧ run.2.exitCode = 1 ∧ run.2.printed = []) ∧
      ∀ args given saveTo,
        console.Accepts d.isUnreadable args (.trace p given true saveTo) →
        (given <|> Stage.ofPath? p) = some stage →
          ∃ fields entries,
            Json.read (String.ofList (d.command args console).2.printed) = .ok (.obj fields) ∧
              fields.lookup ("entries" : CodeString) = some entries ∧
              Ledger.entriesOf entries = .ok c.ledger.entries := by
  have htext := Disk.readText_eq_ok hread hdecode
  obtain ⟨c, hrun, houtput, hclean, hportable, hrules⟩ := exists_run_plain stage hescape hlength
  refine ⟨c, hrun, houtput, ?_, ?_⟩
  · intro args given out strict ledger hargs hstage hpaths htakes
    have hgo := Plan.stops_convert hconsole hname hpaths hrules
    have hleft := Conversion.leftBy_perform hconsole hgo htakes hclean hportable
    dsimp only
    rw [Disk.command_eq hconsole hargs, Disk.execute_convert htext hstage]
    match strict with
    | false =>
      rw [Plan.ofConversion, hrun]
      exact .inl hleft
    | true =>
      rcases Conversion.run_strict_eq_or hrun with hstrict | ⟨fault, hrefused⟩
      · rw [Plan.ofConversion, hstrict]
        exact .inl hleft
      · exact .inr ⟨rfl, Disk.perform_refused hrefused⟩
  · intro args given saveTo hargs hstage
    have hprinted := Disk.printed_perform_trace (d := d) hconsole saveTo
      (Conversion.escape_notMem_trace hportable)
    rw [Disk.command_eq hconsole hargs, Disk.execute_trace htext hstage, Plan.ofConversion, hrun]
    change ∃ fields entries, Json.read (String.ofList
      (d.perform 0 (Plan.trace console true saveTo c).actions).2.printed) = _ ∧ _
    rw [hprinted]
    exact Conversion.exists_read_trace hportable

/-- A shader with a carriage return. The output is saved in a directory that is not there yet, and
the path of the ledger leads through that directory. -/
theorem commands_agree_new_directory :
    let d : Disk :=
      { items := [(["work".toList], { node := .directory }),
          (["work".toList, "s.fs".toList],
            { node := .file (Utf8.encode "in vec2 v;\r\n".toList) })] }
    ∃ c : Conversion, c.output = "varying vec2 v;\n".toList ∧
      c.LeftBy (some (.ofString "/work/o/s")) (some (.ofString "o/../l"))
        (d.command ["convert", "/work/s.fs", "--out", "/work/o/s", "--ledger", "o/../l"]) ∧
      ∃ fields entries,
        Json.read (String.ofList (d.command ["trace", "/work/s.fs", "--json"]).2.printed) =
            .ok (.obj fields) ∧
          fields.lookup ("entries" : CodeString) = some entries ∧
          Ledger.entriesOf entries = .ok c.ledger.entries := by
  intro d
  have hread : d.read (.ofString "/work/s.fs") = .ok (Utf8.encode "in vec2 v;\r\n".toList) := rfl
  have hshader := Disk.nameable_of_read hread
  have hout : Path.Nameable d.isUnreadable "/work/o/s" := ⟨by decide, by decide⟩
  have hledger : Path.Nameable d.isUnreadable "o/../l" := ⟨by decide, by decide⟩
  have hconvertArgs : Invocation.Written d.isUnreadable
      (Invocation.convertArgs "/work/s.fs" none (some "/work/o/s") false (some "o/../l")) _ :=
    .convert (by decide +kernel) hshader (by simpa using hout) (by simpa using hledger)
  have htraceArgs : Invocation.Written d.isUnreadable
      (Invocation.traceArgs "/work/s.fs" none true none) _ :=
    .trace (by decide +kernel) hshader (by simp)
  have htakes (t u : Text) :
      d.Takes [(.ofString "/work/o/s", t), (.ofString "o/../l", u)] := by
    have hsaved : (d.saveAll [(.ofString "/work/o/s", t), (.ofString "o/../l", u)]).2 = none := by
      rfl
    have houtPlace : (d.saveAll [(.ofString "/work/o/s", t), (.ofString "o/../l", u)]).1.place
        (.ofString "/work/o/s") = .ok ["work".toList, "o".toList, "s".toList] :=
      Disk.place_saveAll_cons hsaved (by rfl)
    have hledgerPlace : (d.saveAll [(.ofString "/work/o/s", t), (.ofString "o/../l", u)]).1.place
        (.ofString "o/../l") = .ok ["work".toList, "l".toList] :=
      Disk.place_saveAll_cons hsaved (by rfl)
    refine ⟨hsaved, ?_, List.forall_mem_cons.2 ⟨?_, List.forall_mem_singleton.2 ?_⟩⟩
    · rw [List.pairwise_pair, houtPlace, hledgerPlace]
      decide
    · intro q hq
      obtain rfl := Except.ok.inj (houtPlace.symm.trans hq)
      exact Disk.mayRead_of_free (by decide)
    · intro q hq
      obtain rfl := Except.ok.inj (hledgerPlace.symm.trans hq)
      exact Disk.mayRead_of_free (by decide)
  obtain ⟨c, -, houtput, hconvert, htrace⟩ := commands_agree Console.lawful_standard
    .fragment hread (Utf8.decode_encode _) (by decide) (by decide) (by decide)
  refine ⟨c, houtput.trans (by decide +kernel), ?_, htrace _ _ _ (.inl htraceArgs) rfl⟩
  rcases hconvert _ _ _ _ _ (.inl hconvertArgs) rfl (by decide) (htakes _ _) with hleft | ⟨h, -⟩
  · exact hleft
  · cases h

/-- Not every path can stand on a command line. One that begins with a hyphen is taken for an
option, and one that leads to a file which may be written and not read is refused, even for the
output. -/
theorem command_refused_paths :
    let d : Disk :=
      { items := [(["work".toList], { node := .directory }),
          (["work".toList, "-s.frag".toList], { node := .file (Utf8.encode "in vec2 v;".toList) }),
          (["work".toList, "s.frag".toList], { node := .file (Utf8.encode "in vec2 v;".toList) }),
          (["work".toList, "o".toList],
            { node := .file [], permissions := { read := false } })] }
    (d.readText (.ofString "-s.frag") = .ok "in vec2 v;".toList ∧
      Stage.ofPath? (.ofString "-s.frag") = some .fragment ∧
      d.command ["convert", "-s.frag"] = (d, { exitCode := 2 })) ∧
    d.readText (.ofString "s.frag") = .ok "in vec2 v;".toList ∧
      (∀ text, (d.saveText (.ofString "o") text).2 = none) ∧
      d.command ["convert", "s.frag", "--out", "o"] = (d, { exitCode := 2 }) := by
  exact ⟨by decide +kernel, by decide +kernel, fun _ ↦ rfl, by decide +kernel⟩

end Chain

end ShaderDowngrade

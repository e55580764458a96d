import ShaderDowngrade.Command.Execution
import ShaderDowngrade.Proofs.Command.LawfulConsole
import ShaderDowngrade.Proofs.Command.SavedFiles

/-!
# What plans come to

If nothing in a plan gives up, and all files can be saved, then the plan is carried out to its end:
the files have been saved in their order, and what is printed is what its actions print. So the
outcome of a conversion can be read off the plan.

Main statements: `Disk.perform_eq`, a plan that is carried out to its end;
`Plan.stops_convert`, when nothing in the plan of a conversion gives up.

## Two reasons to end early

Whether a file can be saved is a question about the disk. Whether a message can be shown is one
about the console and about what the message quotes. The plan tells which files and which messages
there are, so the two are answered apart.
-/

namespace ShaderDowngrade

variable {d : Disk} {actions : List Action} {text : Text} {console : Console}

/-! ## Actions -/

namespace Action

/-- The file that the action saves, if it saves one. -/
def file? : Action → Option (Path × Text)
  | .save path text => some (path, text)
  | _ => none

/-- What the action prints to the output. -/
def output : Action → Text
  | .print text => text
  | _ => []

/-- Whether the action gives up. -/
def stops : Action → Bool
  | .stop _ => true
  | _ => false

variable {shown : Except Markup.Fault Text}

@[simp] theorem file?_save (path : Path) (text : Text) :
    (save path text).file? = some (path, text) := rfl

@[simp] theorem file?_print (text : Text) : (print text).file? = none := rfl

@[simp] theorem output_save (path : Path) (text : Text) : (save path text).output = [] := rfl

@[simp] theorem output_print (text : Text) : (print text).output = text := rfl

@[simp] theorem file?_reportShown : (reportShown shown).file? = none := by
  rw [reportShown.eq_def]
  split <;> rfl

@[simp] theorem output_reportShown : (reportShown shown).output = [] := by
  rw [reportShown.eq_def]
  split <;> rfl

theorem stops_reportShown (h : ∃ text, shown = .ok text) : (reportShown shown).stops = false := by
  obtain ⟨text, rfl⟩ := h
  rfl

end Action

/-- **A plan is carried out to its end** if nothing in it gives up and all files can be saved. -/
theorem Disk.perform_eq (hgo : ∀ a ∈ actions, a.stops = false)
    (h : (d.saveAll (actions.filterMap Action.file?)).2 = none) (exitCode : ℕ) :
    ∃ reported, d.perform exitCode actions =
      ((d.saveAll (actions.filterMap Action.file?)).1,
        { exitCode, printed := actions.flatMap Action.output, reported }) := by
  induction actions generalizing d with
  | nil => exact ⟨[], rfl⟩
  | cons a actions ih =>
    obtain ⟨ha, hothers⟩ := List.forall_mem_cons.1 hgo
    match a with
    | .print text =>
      obtain ⟨reported, hrest⟩ := ih hothers h
      refine ⟨reported, ?_⟩
      rw [perform, hrest]
      rfl
    | .report text =>
      obtain ⟨reported, hrest⟩ := ih hothers h
      refine ⟨text ++ reported, ?_⟩
      rw [perform, hrest]
      rfl
    | .save path text =>
      obtain ⟨hfirst, hsaved, heq⟩ := saveAll_cons h
      obtain ⟨reported, hrest⟩ := ih hothers hsaved
      refine ⟨reported, ?_⟩
      have hsave : d.saveText path text = ((d.saveText path text).1, none) := Prod.ext rfl hfirst
      rw [perform, hsave]
      exact hrest.trans (by rw [List.filterMap_cons]; exact congrArg (·.1, _) heq.symm)
    | .stop fault => cases ha

/-! ## The plan of a conversion -/

/-- The files that a conversion is asked to save, in their order. -/
def Conversion.files (c : Conversion) (out ledger : Option Path) : List (Path × Text) :=
  (out.elim [] fun p ↦ [(p, c.output)]) ++ ledger.elim [] fun p ↦ [(p, c.ledger.encode.toList)]

namespace Plan

variable {path : Path} {out ledger : Option Path} {c : Conversion}

theorem filterMap_convert :
    (convert console path out ledger c).actions.filterMap Action.file? = c.files out ledger := by
  cases out <;> cases ledger <;> simp [convert, Conversion.files]

theorem flatMap_convert : (convert console path out ledger c).actions.flatMap Action.output =
    if out.isNone then console.plain c.output else [] := by
  cases out <;> cases ledger <;> simp [convert]

theorem notMem_intercalate {x : Char} {separator : Text} {ws : List Text} (h : x ∉ separator)
    (hws : ∀ w ∈ ws, x ∉ w) : x ∉ separator.intercalate ws := by
  induction ws with
  | nil => exact List.not_mem_nil
  | cons w ws ih =>
    obtain ⟨hw, hothers⟩ := List.forall_mem_cons.1 hws
    match ws with
    | [] => rwa [List.intercalate_singleton]
    | w' :: ws =>
      rw [List.intercalate_cons_cons]
      simp only [List.mem_append, not_or]
      exact ⟨⟨hw, h⟩, ih hothers⟩

theorem exists_marked_firedLine (hconsole : console.Lawful)
    (hrules : ∀ r ∈ c.firedRules, '[' ∉ r.toText) :
    ∃ shown, console.marked (firedLine c) = .ok shown := by
  have hnames : ∀ w ∈ c.firedRules.map (fun name ↦ String.ofList name.toText), '[' ∉ w.toList := by
    simpa using hrules
  rw [firedLine]
  generalize c.firedRules.map (fun name ↦ String.ofList name.toText) = names at hnames ⊢
  have hnumber : '[' ∉ (toString names.length).toList := by
    intro hmem
    rw [Nat.toString_eq_repr, Nat.toList_repr] at hmem
    have hdigit := Nat.isDigit_of_mem_toDigits (by decide) (by decide) hmem
    exact absurd hdigit (by decide)
  have hlist : '[' ∉ (if names.isEmpty then "none" else ", ".intercalate names).toList := by
    split
    · decide
    · rw [String.toList_intercalate]
      refine notMem_intercalate (by decide) ?_
      simpa using hnames
  have hinner : '[' ∉ (toString names.length ++ " rule(s) fired: " ++
      (if names.isEmpty then "none" else ", ".intercalate names)).toList := by
    simp only [String.toList_append, List.mem_append, not_or]
    exact ⟨⟨hnumber, by decide⟩, hlist⟩
  have hmarked := hconsole.exists_marked_styled "dim" (by decide) _ "" hinner List.not_mem_nil
  simpa [String.append_assoc] using hmarked

/-- **Nothing in the plan of a conversion gives up** if what its messages quote has no opening
brackets. -/
theorem stops_convert (hconsole : console.Lawful) (hname : '[' ∉ path.name)
    (hpaths : ∀ p ∈ out.toList ++ ledger.toList, '[' ∉ p.toString.toList)
    (hrules : ∀ r ∈ c.firedRules, '[' ∉ r.toText) :
    ∀ a ∈ (convert console path out ledger c).actions, a.stops = false := by
  have hout (p : Path) (hp : '[' ∉ p.toString.toList) :
      ∃ shown, console.marked ("[bold]" ++ String.ofList path.name ++ "[/bold] (" ++
        c.stage.name ++ ") -> " ++ p.toString) = .ok shown := by
    have hstage : '[' ∉ c.stage.name.toList := by
      cases c.stage <;> decide
    have hbehind : '[' ∉ (" (" ++ c.stage.name ++ ") -> " ++ p.toString).toList := by
      simp only [String.toList_append, List.mem_append, not_or]
      exact ⟨⟨⟨by decide, hstage⟩, by decide⟩, hp⟩
    have hmarked := hconsole.exists_marked_styled "bold" (by decide) (String.ofList path.name) _
      (by simpa using hname) hbehind
    have hmessage : "[" ++ "bold" ++ "]" ++ String.ofList path.name ++ "[/" ++ "bold" ++ "]" ++
        (" (" ++ c.stage.name ++ ") -> " ++ p.toString) = "[bold]" ++ String.ofList path.name ++
          "[/bold] (" ++ c.stage.name ++ ") -> " ++ p.toString := by
      simp [← String.toList_inj]
    rwa [hmessage] at hmarked
  have hledger (p : Path) (hp : '[' ∉ p.toString.toList) :
      ∃ shown, console.marked ("Ledger written to " ++ p.toString) = .ok shown := by
    refine hconsole.exists_marked _ ?_
    simp only [String.toList_append, List.mem_append, not_or]
    exact ⟨by decide, hp⟩
  have hlast : ∀ a ∈ if out.isNone then [Action.print (console.plain c.output)] else [],
      a.stops = false := by
    split
    · exact List.forall_mem_singleton.2 rfl
    · exact List.forall_mem_nil _
  rw [convert]
  refine List.forall_mem_append.2 ⟨List.forall_mem_append.2 ⟨?_, ?_⟩, List.forall_mem_cons.2
    ⟨Action.stops_reportShown (exists_marked_firedLine hconsole hrules), hlast⟩⟩
  · match out with
    | none => exact List.forall_mem_nil _
    | some p =>
      have hp := hpaths p (by simp)
      exact List.forall_mem_cons.2 ⟨rfl,
        List.forall_mem_singleton.2 (Action.stops_reportShown (hout p hp))⟩
  · match ledger with
    | none => exact List.forall_mem_nil _
    | some p =>
      have hp := hpaths p (by simp)
      exact List.forall_mem_cons.2 ⟨rfl,
        List.forall_mem_singleton.2 (Action.stops_reportShown (hledger p hp))⟩

end Plan

end ShaderDowngrade

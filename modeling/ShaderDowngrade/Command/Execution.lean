import ShaderDowngrade.Command.Plan

/-!
# Carrying out plans on a disk

The outcome of a command is what it printed, its exit code, and the fault that ended it early, if
one did. A command line that is refused ends before anything is done: with a fault if a path in it
has a NUL, and otherwise with exit code 2. What is then said about the command line is left to the
console and not kept here.
-/

namespace ShaderDowngrade

/-- What ends a command early. -/
inductive CommandFault where
  | file (fault : FileFault)
  | markup (fault : Markup.Fault)
deriving DecidableEq, Repr

/-- The fault in words. -/
def CommandFault.message : CommandFault → String
  | .file fault => fault.message
  | .markup fault => fault.message

/-- What is left of a command when it has ended. -/
structure Outcome where
  exitCode : Nat
  /-- What it printed to the output. -/
  printed : Text := []
  /-- What it printed to the error output. -/
  reported : Text := []
  /-- The fault that ended it early. -/
  fault : Option CommandFault := none
deriving DecidableEq, Repr

/-- What is left of a command whose command line is refused. -/
def Outcome.refused : Refusal → Outcome
  | .unclear | .unreadable _ => { exitCode := 2 }
  | .nul path => { exitCode := 1, fault := some (.file ⟨.path .embeddedNul, path⟩) }

namespace Disk

/-- Carries out actions one after the other, up to the first that fails. -/
def perform (d : Disk) (exitCode : Nat) : List Action → Disk × Outcome
  | [] => (d, { exitCode })
  | .print text :: rest =>
    let (d, o) := d.perform exitCode rest
    (d, { o with printed := text ++ o.printed })
  | .report text :: rest =>
    let (d, o) := d.perform exitCode rest
    (d, { o with reported := text ++ o.reported })
  | .save path text :: rest =>
    match d.saveText path text with
    | (d, none) => d.perform exitCode rest
    | (d, some fault) => (d, { exitCode := 1, fault := some (.file fault) })
  | .stop fault :: _ => (d, { exitCode := 1, fault := some (.markup fault) })

/-- Runs an invocation: reads its shader and carries out its plan. -/
def execute (d : Disk) (i : Invocation) (console : Console) : Disk × Outcome :=
  let source := i.path?.elim (.ok []) d.readText
  let plan := i.plan console source
  d.perform plan.exitCode plan.actions

/-- Runs a command line. -/
def command (d : Disk) (args : List String) (console : Console := .standard) : Disk × Outcome :=
  match console.read d.isUnreadable args with
  | .ok i => d.execute i console
  | .error refusal => (d, .refused refusal)

end Disk

end ShaderDowngrade

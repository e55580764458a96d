import ShaderDowngrade.Command.Plan

/-!
# The command line

Reads the shader of an invocation, makes the plan, and carries it out on the real file system.
-/

namespace ShaderDowngrade

/-- The fault that an error of the file system stands for, if it is one of the known ones. -/
def faultOf (path : Path) : IO.Error → Option FileFault
  | .noFileOrDirectory .. => some ⟨.path .notFound, path⟩
  | .alreadyExists .. => some ⟨.path .alreadyExists, path⟩
  | .inappropriateType .. => some ⟨.path .isDirectory, path⟩
  | .noSuchThing .. => some ⟨.path .notFound, path⟩
  | .invalidArgument .. => some ⟨.path .nameTooLong, path⟩
  | .permissionDenied .. => some ⟨.permission, path⟩
  | _ => none

/-- Whether a path leads to something, and it may not be read. -/
def isUnreadable (written : String) : IO Bool := do
  try
    let path ← IO.FS.realPath written
    let _ ← IO.FS.Handle.mk path .read
    return false
  catch e =>
    match e with
    | .permissionDenied .. => leadsSomewhere
    | _ => return false
where
  /-- Whether a path leads to something. -/
  leadsSomewhere : IO Bool := do
    try
      let _ ← IO.FS.realPath written
      return true
    catch _ => return false

/-- The paths among arguments that lead to something that may not be read. A path may stand behind
an equals sign. -/
def unreadablePaths (args : List String) : IO (List String) :=
  (args ++ args.filterMap fun arg ↦ (Arguments.splitOption arg).2).filterM isUnreadable

/-- The text of a file. -/
def readSource (path : Path) : IO (Except SourceFault Text) := do
  try
    let bytes ← IO.FS.readBinFile path.toString
    return sourceText bytes.toList
  catch e =>
    match faultOf path e with
    | some fault => return .error (.file fault)
    | none => throw e

/-- Carries out a step of a plan. -/
def Action.perform : Action → IO Unit
  | .print text => do (← IO.getStdout).putStr (String.ofList text)
  | .report text => do (← IO.getStderr).putStr (String.ofList text)
  | .save path text => do
    IO.FS.createDirAll path.parent.toString
    IO.FS.writeBinFile path.toString ⟨(Utf8.encode text).toArray⟩
  | .stop fault => throw (IO.userError fault.message)

end ShaderDowngrade

open ShaderDowngrade

def main (args : List String) : IO UInt32 := do
  let console := Console.standard
  let unreadable ← unreadablePaths args
  match console.read unreadable.contains args with
  | .error (.nul path) => throw (IO.userError (FileFault.message ⟨.path .embeddedNul, path⟩))
  | .error .unclear | .error (.unreadable _) => return 2
  | .ok invocation =>
    let source ←
      match invocation.path? with
      | some path => readSource path
      | none => pure (.ok [])
    let plan := invocation.plan console source
    for action in plan.actions do
      action.perform
    return plan.exitCode.toUInt32

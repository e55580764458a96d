import ShaderDowngrade.Stage

/-!
# Invocations

The command line names one of three commands: `convert` a shader, `trace` what the rules do to it,
or list the `rules`. Options may stand before and after the path, a value follows its option as
the next argument or behind an equals sign, the last of several values counts, and `--` ends the
options.

A command line is refused if it is not understood, if a path in it has a NUL, or if a path in it
leads to something that is there and may not be read, be it only to be written. Of several faults
the first counts: a wrong option or a missing value comes first of all, then the values of options
in the order in which the options are first named, then the path, then what stands behind it.
-/

namespace ShaderDowngrade

/-- A command with its options. -/
inductive Invocation where
  /-- Converts a shader, to a file or to the output, with the ledger in another file if wanted. -/
  | convert (path : Path) (stage : Option Stage) (out : Option Path) (strict : Bool)
    (ledger : Option Path)
  /-- Shows what the rules do to a shader, as a table or as JSON, and keeps that in a file if
  wanted. -/
  | trace (path : Path) (stage : Option Stage) (json : Bool) (saveTo : Option Path)
  /-- Lists the rules. -/
  | rules
deriving DecidableEq, Repr

/-- Why a command line is refused. -/
inductive Refusal where
  /-- It is not understood. -/
  | unclear
  /-- A path in it leads to something that may not be read. -/
  | unreadable (path : Path)
  /-- A path in it has a NUL. -/
  | nul (path : Path)
deriving DecidableEq, Repr

/-- Arguments sorted into positions, options with values, and flags. -/
structure Arguments where
  positions : List String := []
  values : List (String × String) := []
  flags : List String := []
deriving DecidableEq, Repr

namespace Arguments

/-- The last value of an option. -/
def value? (a : Arguments) (name : String) : Option String := a.values.reverse.lookup name

/-- The name of an option and the value behind its equals sign, if it has one. -/
def splitOption (arg : String) : String × Option String :=
  let cs := arg.toList
  let name := String.ofList (cs.takeWhile (· != '='))
  match cs.dropWhile (· != '=') with
  | _ :: value => (name, some (String.ofList value))
  | [] => (name, none)

/-- Whether an argument is an option; a single hyphen is not. -/
def isOption (arg : String) : Bool := arg.startsWith "-" && arg != "-"

/-- Sorts arguments, given the options that take a value and those that do not. Nothing for an
unknown option, a missing value, or a flag with a value. -/
def sort (valued flags : List String) : List String → Option Arguments
  | [] => some {}
  | "--" :: rest => some { positions := rest }
  | arg :: rest =>
    if isOption arg then
      match splitOption arg with
      | (name, some value) =>
        if name ∈ valued then
          (sort valued flags rest).map fun a ↦ { a with values := (name, value) :: a.values }
        else none
      | (name, none) =>
        if name ∈ flags then
          (sort valued flags rest).map fun a ↦ { a with flags := name :: a.flags }
        else if name ∈ valued then
          match rest with
          | value :: rest =>
            (sort valued flags rest).map fun a ↦ { a with values := (name, value) :: a.values }
          | [] => none
        else none
    else (sort valued flags rest).map fun a ↦ { a with positions := arg :: a.positions }

section

variable (isUnreadable : String → Bool)

/-- A written path, which must not have a NUL, nor lead to what may not be read. -/
def readPath (s : String) : Except Refusal Path :=
  let path := Path.ofString s
  if path.hasNul then .error (.nul path)
  else if isUnreadable s then .error (.unreadable path)
  else .ok path

/-- The value of an option, read by `read`, if it is given. -/
def option {α : Type} (a : Arguments) (name : String) (read : String → Except Refusal α) :
    Except Refusal (Option α) :=
  match a.value? name with
  | none => .ok none
  | some value => (read value).map some

/-- The stage that is asked for, if one is. -/
def stage (a : Arguments) : Except Refusal (Option Stage) :=
  a.option "--stage" fun name ↦ (Stage.ofName? name).elim (.error .unclear) .ok

/-- The path that an option gives, if it is given. -/
def path (a : Arguments) (name : String) : Except Refusal (Option Path) :=
  a.option name (readPath isUnreadable)

/-- The options with values, each once, in the order in which they are first named. -/
def named (a : Arguments) : List String := (a.values.map (·.1)).eraseDups

/-- Refuses a value that is none for its option. -/
def check (a : Arguments) (name : String) : Except Refusal Unit :=
  if name = "--stage" then discard a.stage else discard (a.path isUnreadable name)

/-- The arguments, if all options have values that are right for them. -/
def checked (a : Arguments) : Except Refusal Arguments := do
  a.named.forM (a.check isUnreadable)
  return a

/-- The arguments sorted, if all options are in order. -/
def read (valued flags args : List String) : Except Refusal Arguments :=
  match sort valued flags args with
  | none => .error .unclear
  | some a => a.checked isUnreadable

/-- The path of the shader, the only position. -/
def shader (a : Arguments) : Except Refusal Path :=
  match a.positions with
  | [] => .error .unclear
  | p :: more => do
    let path ← readPath isUnreadable p
    if more.isEmpty then return path else throw .unclear

end

end Arguments

namespace Invocation

/-- The invocation that arguments ask for, given which paths, as they are written, lead to something
that may not be read. -/
def ofArgs (isUnreadable : String → Bool) : List String → Except Refusal Invocation
  | "--" :: command :: args => ofCommand command args
  | command :: args => ofCommand command args
  | [] => .error .unclear
where
  /-- The invocation of a command. -/
  ofCommand (command : String) (args : List String) : Except Refusal Invocation :=
    match command with
    | "convert" => do
      let a ← Arguments.read isUnreadable ["--stage", "--out", "--ledger"] ["--strict"] args
      return .convert (← a.shader isUnreadable) (← a.stage) (← a.path isUnreadable "--out")
        (a.flags.contains "--strict") (← a.path isUnreadable "--ledger")
    | "trace" => do
      let a ← Arguments.read isUnreadable ["--stage", "--save"] ["--json"] args
      return .trace (← a.shader isUnreadable) (← a.stage) (a.flags.contains "--json")
        (← a.path isUnreadable "--save")
    | "rules" => do
      let a ← Arguments.read isUnreadable [] [] args
      if a.positions.isEmpty then return .rules else throw .unclear
    | _ => .error .unclear

/-- The shader that the invocation is about. -/
def path? : Invocation → Option Path
  | .convert path .. | .trace path .. => some path
  | .rules => none

end Invocation

end ShaderDowngrade

import ShaderDowngrade.Command.Console
import ShaderDowngrade.Command.Source
import ShaderDowngrade.Ledger.Codec

/-!
# Plans

What an invocation does is decided once its shader has been read: a plan is a list of actions, each
of which prints something or writes a file, and an exit code. Carrying a plan out decides nothing
more, except that it ends with the first file that cannot be written. It also ends where a message
cannot be shown, because what is quoted in it happens to be faulty markup.

A shader that cannot be read, a stage that cannot be told and a violation in a strict conversion
all give a plan that prints one message and writes nothing (`Plan.failure`).
-/

namespace ShaderDowngrade

/-- A step of a plan. -/
inductive Action where
  /-- Prints to the output. -/
  | print (text : Text)
  /-- Prints to the error output. -/
  | report (text : Text)
  /-- Writes a file, making the directories that it lies in. -/
  | save (path : Path) (text : Text)
  /-- Gives up. -/
  | stop (fault : Markup.Fault)
deriving DecidableEq, Repr

/-- What an invocation does. -/
structure Plan where
  actions : List Action
  exitCode : Nat := 0
deriving DecidableEq, Repr

/-- Prints what a console shows to the output, if it can be shown. -/
def Action.printShown : Except Markup.Fault Text → Action
  | .ok text => .print text
  | .error fault => .stop fault

/-- Prints what a console shows to the error output, if it can be shown. -/
def Action.reportShown : Except Markup.Fault Text → Action
  | .ok text => .report text
  | .error fault => .stop fault

namespace Plan

variable (console : Console)

/-- Prints a message and does nothing else. -/
def failure (message : String) : Plan :=
  { actions := [.report (console.plain (message.toList ++ ['\n']))], exitCode := 1 }

/-- Goes on with the text and the stage of a shader, or fails. -/
def ofShader (path : Path) (stage : Option Stage) (source : Except SourceFault Text)
    (next : Text → Stage → Plan) : Plan :=
  match source with
  | .error fault =>
    failure console ("Cannot read shader file " ++ path.toString ++ ": " ++ fault.message)
  | .ok text =>
    match stage <|> Stage.ofPath? path with
    | none =>
      failure console ("Cannot tell the stage of " ++ path.toString ++
        " from its suffix; pass --stage vertex|fragment")
    | some stage => next text stage

/-- Goes on with a conversion, or fails. -/
def ofConversion (strict : Bool) (stage : Stage) (source : Text) (next : Conversion → Plan) :
    Plan :=
  match Conversion.run Chain.standard strict stage source with
  | .ok conversion => next conversion
  | .error (.violated step violations) =>
    failure console (violationReport step (violations.map Violation.message))
  | .error (.inapplicable _) => { actions := [], exitCode := 1 }

/-- How many rules fired, and which. -/
def firedLine (c : Conversion) : String :=
  let names := c.firedRules.map fun name ↦ String.ofList name.toText
  "[dim]" ++ toString names.length ++ " rule(s) fired: " ++
    (if names.isEmpty then "none" else ", ".intercalate names) ++ "[/dim]"

/-- Writes the output and the ledger where they are wanted, and says so. Without a file for it the
output is printed. -/
def convert (path : Path) (out ledger : Option Path) (c : Conversion) : Plan where
  actions :=
    (out.elim [] fun p ↦
      [.save p c.output,
        .reportShown (console.marked ("[bold]" ++ String.ofList path.name ++ "[/bold] (" ++
          c.stage.name ++ ") -> " ++ p.toString))]) ++
    (ledger.elim [] fun p ↦
      [.save p c.ledger.encode.toList,
        .reportShown (console.marked ("Ledger written to " ++ p.toString))]) ++
    .reportShown (console.marked (firedLine c)) ::
      (if out.isNone then [.print (console.plain c.output)] else [])

/-- Prints the trace and writes it where it is wanted. -/
def trace (json : Bool) (saveTo : Option Path) (c : Conversion) : Plan where
  actions :=
    (if json then .print (console.plain (c.trace.encode.toList ++ ['\n']))
      else .printShown (console.trace c)) ::
      saveTo.elim [] fun p ↦ [.save p c.trace.encode.toList]

end Plan

/-- The plan of an invocation, given what its shader reads as. -/
def Invocation.plan (i : Invocation) (console : Console) (source : Except SourceFault Text) :
    Plan :=
  match i with
  | .convert path stage out strict ledger =>
    Plan.ofShader console path stage source fun text stage ↦
      Plan.ofConversion console strict stage text (Plan.convert console path out ledger)
  | .trace path stage json saveTo =>
    Plan.ofShader console path stage source fun text stage ↦
      Plan.ofConversion console false stage text (Plan.trace console json saveTo)
  | .rules => { actions := [.printShown (console.rules Chain.standard)] }

end ShaderDowngrade

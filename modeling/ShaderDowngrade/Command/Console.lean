import ShaderDowngrade.Command.Invocation
import ShaderDowngrade.Report.Trace

/-!
# Consoles

Between the program and its user stands a console. It makes an invocation of a command line, and it
decides what becomes of a text that is printed: control sequences for terminals are left out, marks
for styles are taken for what they are, tables are laid out.

What the program does with an invocation, and which texts it prints, does not depend on any of that.
So a console is a value that commands are given. The usual one is `Console.standard`.
-/

namespace ShaderDowngrade

/-- What stands between the program and its user. -/
structure Console where
  /-- Reads a command line, given which paths, as they are written, lead to something that may not
  be read. -/
  read : (isUnreadable : String → Bool) → List String → Except Refusal Invocation
  /-- What is shown of a text. -/
  plain : Text → Text
  /-- What is shown of a message with marks. -/
  marked : String → Except Markup.Fault Text
  /-- What is shown of a trace that is laid out for reading. -/
  trace : Conversion → Except Markup.Fault Text
  /-- What is shown of rules. -/
  rules : List Rule → Except Markup.Fault Text

namespace Console

/-- A terminal's control sequence: an escape, an opening bracket, parameters and a letter. -/
def controlSequence : Pattern :=
  ⟨"\\x1b\\[[;?0-9]*[a-zA-Z]",
    Expr.seqAll [.char '\x1b', .char '[',
      .rep 0 none true (.one (.oneOf [.single ';', .single '?', .range '0' '9'])),
      .one (.oneOf [.range 'a' 'z', .range 'A' 'Z'])]⟩

/-- The text without control sequences. -/
def withoutControls (text : Text) : Text := controlSequence.replaceWith (fun _ ↦ []) text

/-- The width that messages and tables are laid out for. -/
def terminalWidth : Nat := 500

/-- The console of a program whose output goes to a file or to another program. -/
def standard : Console where
  read := Invocation.ofArgs
  plain := withoutControls
  marked message := (Markup.read message.toList).map (Lines.printed terminalWidth)
  trace := Conversion.traceText terminalWidth
  rules rules := (Chain.table rules).map (Table.render terminalWidth)

end Console

end ShaderDowngrade

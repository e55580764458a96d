import ShaderDowngrade.Command.Disk
import ShaderDowngrade.Text.Utf8

/-!
# Source files

A source file holds UTF-8, with line ends of any kind; carriage returns do not reach the rules.
-/

namespace ShaderDowngrade

/-- Why a file gives no text. -/
inductive SourceFault where
  /-- The file cannot be read. -/
  | file (fault : FileFault)
  /-- The file does not hold UTF-8. -/
  | encoding (error : Utf8.Error)
deriving DecidableEq, Repr

def SourceFault.message : SourceFault → String
  | .file fault => fault.message
  | .encoding error => error.message

/-- The text of a file's bytes. -/
def sourceText (bytes : List UInt8) : Except SourceFault Text :=
  (Utf8.decode bytes).mapError .encoding |>.map Utf8.unifyNewlines

/-- The text of a file. -/
def Disk.readText (d : Disk) (p : Path) : Except SourceFault Text := do
  sourceText (← (d.read p).mapError .file)

/-- Writes a text to a file, making the directories that it lies in. -/
def Disk.saveText (d : Disk) (p : Path) (text : Text) : Disk × Option FileFault :=
  d.save p (Utf8.encode text)

end ShaderDowngrade

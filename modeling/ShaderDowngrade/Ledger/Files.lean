import ShaderDowngrade.Command.Source
import ShaderDowngrade.Ledger.Codec

/-!
# Ledgers in files
-/

namespace ShaderDowngrade

/-- Why a file gives no ledger. -/
inductive LoadError where
  /-- The file gives no text. -/
  | source (fault : SourceFault)
  /-- The text is no ledger. -/
  | ledger (error : LedgerError)

/-- Writes the ledger to a file, making the directories that it lies in. -/
def Ledger.save (l : Ledger) (d : Disk) (p : Path) : Disk × Option FileFault :=
  d.saveText p l.encode.toList

/-- The ledger in a file. -/
def Ledger.load (d : Disk) (p : Path) : Except LoadError Ledger := do
  let text ← (d.readText p).mapError .source
  (Ledger.decode (String.ofList text)).mapError .ledger

end ShaderDowngrade

import ShaderDowngrade.Entry.Basic

/-!
# Ledgers

A ledger is the record of a run: the entries in the order in which they were made, and the stage
that they were made for. Entries are added at the end and never leave, so what a ledger holds at
one time begins what it holds at any later time (`Ledger.entries_recordAll`).
-/

namespace ShaderDowngrade

/-- The entries of a run, oldest first. -/
structure Ledger where
  /-- The stage of the run, if it is known. -/
  stage : Option Stage := none
  /-- What has been recorded. -/
  entries : List Entry := []
deriving DecidableEq, Repr

/-- A choice of entries; what is not set does not matter. -/
structure Query where
  /-- The gate of the rule. -/
  gate : Option Gate := none
  /-- Whether the rule took effect. -/
  fired : Option Bool := none
  /-- Why it did not. -/
  skip : Option Skip := none
  /-- The group that the rule ran in. -/
  group : Option CodeString := none
  /-- The least number of matches. -/
  leastMatches : Option Int := none
deriving DecidableEq, Repr

/-- Whether an entry is chosen. -/
def Query.admits (q : Query) (e : Entry) : Bool :=
  q.gate.all (· == e.gate) && q.fired.all (· == e.fired) && q.skip.all (· == e.skip) &&
    q.group.all (· == e.group) && q.leastMatches.all (· ≤ e.matchCount)

namespace Ledger

/-- The ledger with one entry more. -/
def record (l : Ledger) (e : Entry) : Ledger := { l with entries := l.entries ++ [e] }

/-- The ledger with several entries more. -/
def recordAll (l : Ledger) (es : List Entry) : Ledger := { l with entries := l.entries ++ es }

/-- The number of entries. -/
def size (l : Ledger) : Nat := l.entries.length

/-- The latest entry of a rule. -/
def latest? (l : Ledger) (rule : CodeString) : Option Entry :=
  l.entries.reverse.find? (·.rule == rule)

/-- Whether a rule has an entry. -/
def mentions (l : Ledger) (rule : CodeString) : Bool := l.entries.any (·.rule == rule)

/-- The chosen entries, in order. -/
def select (l : Ledger) (q : Query) : List Entry := l.entries.filter q.admits

/-- The entries of rules that took effect. -/
def fired (l : Ledger) : List Entry := l.select { fired := some true }

/-- The names of the rules that took effect. -/
def firedNames (l : Ledger) : List CodeString := l.fired.map Entry.rule

/-- The directives that have been put in front of the text. The one that was put there last stands
first. -/
def directives (l : Ledger) : List CodeString :=
  (l.fired.reverse.map Entry.inserted).filter (· ≠ ("" : CodeString))

theorem entries_recordAll (l : Ledger) (es : List Entry) :
    l.entries <+: (l.recordAll es).entries := List.prefix_append _ _

theorem recordAll_append (l : Ledger) (es fs : List Entry) :
    l.recordAll (es ++ fs) = (l.recordAll es).recordAll fs := by
  simp [recordAll]

theorem size_recordAll (l : Ledger) (es : List Entry) :
    (l.recordAll es).size = l.size + es.length := List.length_append

end Ledger

end ShaderDowngrade

import ShaderDowngrade.Conversion
import ShaderDowngrade.Json.Writer
import ShaderDowngrade.Report.Table

/-!
# Traces

A trace shows what each rule did to a source: as a JSON object, or as a table for reading.
-/

namespace ShaderDowngrade

namespace Conversion

/-- The trace as a JSON value. -/
def trace (c : Conversion) : Json :=
  .obj [("kind", .str c.stage.name), ("changed", .bool c.changed),
    ("directives", .arr (c.directives.map .str)), ("fired_rules", .arr (c.firedRules.map .str)),
    ("entries", .arr (c.ledger.entries.map Entry.toJson))]

/-- What became of an application: it fired, or why it did not. -/
def status (e : Entry) : String := if e.fired then "fired" else e.skip.name

/-- The table of all entries. -/
def traceTable (c : Conversion) : Except Markup.Fault Table := do
  let entries := c.ledger.entries
  let numbers := (List.range entries.length).map (· + 1)
  return {
    title := "Rule applications"
    columns := [
      ← Column.ofMarkup "#" true (numbers.map fun n ↦ (toString n).toList),
      ← Column.ofMarkup "Rule" false (entries.map (·.rule.toText)),
      ← Column.ofMarkup "Group" false (entries.map (·.group.toText)),
      ← Column.ofMarkup "Condition" false (entries.map (·.gate.name.toList)),
      ← Column.ofMarkup "Matches" true (entries.map fun e ↦ (toString e.matchCount).toList),
      ← Column.ofMarkup "Status" false (entries.map fun e ↦ (status e).toList)] }

/-- The trace for reading, on a terminal of the given width: a headline, how many entries fired,
the table, and the directives. -/
def traceText (width : Nat) (c : Conversion) : Except Markup.Fault Text := do
  let headline := "\nRewrite trace (" ++ c.stage.name ++ " shader)\n" ++
    toString c.firedRules.length ++ " of " ++ toString c.ledger.size ++ " entries fired\n\n"
  let table ← c.traceTable
  let directives ← c.directives.mapM fun d ↦
    (Markup.read (' ' :: ' ' :: d.toText)).map (Lines.printed width)
  let extensions := if directives.isEmpty then [] else "\nExtensions enabled:\n".toList
  return headline.toList ++ table.render width ++ extensions ++ directives.flatten

end Conversion

namespace Chain

/-- What the table of rules says of a rule. -/
structure Line where
  step : String
  rule : String
  condition : String
  description : String
deriving DecidableEq, Repr

/-- The line of a rule, and those of its group. -/
def linesOf (step : Nat) (r : Rule) : List Line :=
  match r with
  | .group _ _ stageGate _ rules =>
    ⟨toString step, r.name, stageGate.name ++ " + " ++ r.gate.name, r.describe⟩ ::
      rules.map fun inner ↦ ⟨"", "  " ++ inner.name, "", inner.describe⟩
  | _ => [⟨toString step, r.name, r.gate.name, r.describe⟩]

/-- The table of rules in the order in which they run. -/
def table (rules : List Rule) : Except Markup.Fault Table := do
  let lines := rules.zipIdx.flatMap fun (r, i) ↦ linesOf (i + 1) r
  return {
    title := "Rewrite rule chain (execution order)"
    columns := [
      ← Column.ofMarkup "Step" true (lines.map (·.step.toList)),
      ← Column.ofMarkup "Rule" false (lines.map (·.rule.toList)),
      ← Column.ofMarkup "Condition" false (lines.map (·.condition.toList)),
      ← Column.ofMarkup "Description" false (lines.map (·.description.toList))] }

end Chain

end ShaderDowngrade

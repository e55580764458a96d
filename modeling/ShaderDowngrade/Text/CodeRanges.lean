/-!
# Ranges of code points

Properties of characters are given by tables: lists of ranges of code points, in ascending order
and with both ends included.

Main statement: `CodeRanges.holds_iff`, a table holds a character exactly if one of its ranges
does.
-/

namespace ShaderDowngrade

/-- Ranges of code points by their first and last members. -/
abbrev CodeRanges := List (Nat × Nat)

namespace CodeRanges

/-- Whether the table holds a character. -/
def holds (table : CodeRanges) (c : Char) : Bool :=
  table.any fun (first, last) ↦ first ≤ c.toNat && c.toNat ≤ last

theorem holds_iff {table : CodeRanges} {c : Char} :
    table.holds c = true ↔ ∃ r ∈ table, r.1 ≤ c.toNat ∧ c.toNat ≤ r.2 := by
  simp [holds]

theorem holds_of_mem {table : CodeRanges} {first last : Nat} {c : Char}
    (h : (first, last) ∈ table) (hc : first ≤ c.toNat ∧ c.toNat ≤ last) : table.holds c = true :=
  holds_iff.2 ⟨(first, last), h, hc⟩

end CodeRanges

end ShaderDowngrade

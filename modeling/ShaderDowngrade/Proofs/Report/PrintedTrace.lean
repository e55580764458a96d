import ShaderDowngrade.Proofs.Ledger.RoundTrip
import ShaderDowngrade.Report.Trace

/-!
# Traces that come back

A trace is written as JSON in the same way as a ledger, with the fields of each entry in another
order. If the ledger of a conversion can be read back, then so can its trace, and the entries in it
are those of the ledger.

Main statement: `Conversion.exists_read_trace`, what is printed of a trace gives the entries back.

## What is printed behind it

Entries are read by the names of their fields, so the order makes no difference. A newline is
printed behind the trace, which the reader passes over. Everything else that is printed is visible
ASCII, so a console has nothing to leave out.
-/

namespace ShaderDowngrade

open Ledger (isText_coe)

variable {c : Conversion}

theorem Entry.Portable.toJson {e : Entry} (h : e.Portable) : e.toJson.Portable := by
  refine ⟨?_, ?_⟩
  · simp [CodeString.ofString_inj]
  · exact ⟨isText_coe _, h.rule, isText_coe _, isText_coe _, isText_coe _, h.group,
      isText_coe _, trivial, isText_coe _, h.matchCount, isText_coe _, isText_coe _,
      isText_coe _, h.inserted, isText_coe _, h.description, trivial⟩

namespace Conversion

theorem portable_trace (h : c.ledger.Portable) : c.trace.Portable := by
  have hdirectives : ∀ d ∈ c.directives, d.IsText := by
    intro d hd
    obtain ⟨e, he, rfl⟩ := List.mem_map.1 (List.mem_filter.1 hd).1
    exact (h e (List.mem_filter.1 (List.mem_reverse.1 he)).1).inserted
  have hfired : ∀ r ∈ c.firedRules, r.IsText := by
    intro r hr
    obtain ⟨e, he, rfl⟩ := List.mem_map.1 hr
    exact (h e (List.mem_filter.1 he).1).rule
  refine ⟨?_, isText_coe _, isText_coe _, isText_coe _, trivial, isText_coe _,
    Json.portableItems_map hdirectives, isText_coe _, Json.portableItems_map hfired, isText_coe _,
    Json.portableItems_map fun e he ↦ (h e he).toJson, trivial⟩
  simp [CodeString.ofString_inj]

theorem height_trace_le (c : Conversion) : c.trace.height ≤ 3 := by
  have hstrings (ss : List CodeString) : Json.heightItems (ss.map Json.str) ≤ 0 :=
    Json.heightItems_map_le Json.str (fun _ ↦ Nat.zero_le 0) ss
  have hdirectives := hstrings c.directives
  have hfired := hstrings c.firedRules
  have hentries : Json.heightItems (c.ledger.entries.map Entry.toJson) ≤ 1 :=
    Json.heightItems_map_le Entry.toJson (fun _ ↦ Nat.le_refl _) _
  simp only [trace, Json.height, Json.heightFields]
  omega

/-- **A printed trace** is read back, and its entries are those of the ledger. -/
theorem exists_read_trace (h : c.ledger.Portable) : ∃ fields entries,
    Json.read (String.ofList (c.trace.encode.toList ++ ['\n'])) = .ok (.obj fields) ∧
      fields.lookup ("entries" : CodeString) = some entries ∧
      Ledger.entriesOf entries = .ok c.ledger.entries := by
  refine ⟨_, .arr (c.ledger.entries.map Entry.toJson), Json.read_encode_append (portable_trace h)
    (Nat.le_trans (height_trace_le c) (by decide)) (Json.endsNumber_lineBreak 0 []) rfl, ?_,
    Ledger.entriesOf_map Entry.ofFields_toJson _⟩
  simp [List.lookup_cons]

theorem escape_notMem_trace (h : c.ledger.Portable) : '\x1b' ∉ c.trace.encode.toList ++ ['\n'] := by
  intro hmem
  rcases List.mem_append.1 hmem with hwritten | hnewline
  · rw [Json.encode, String.toList_ofList] at hwritten
    rcases Json.isWritten_encodeAt _ 0 (portable_trace h) _ hwritten with hline | hvisible
    · exact absurd hline (by decide)
    · exact absurd hvisible.1 (by decide)
  · exact absurd hnewline (by decide)

end Conversion

end ShaderDowngrade

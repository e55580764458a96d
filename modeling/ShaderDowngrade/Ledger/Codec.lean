import ShaderDowngrade.Ledger.Basic
import ShaderDowngrade.Entry.Fields
import ShaderDowngrade.Json.Reader
import ShaderDowngrade.Json.Writer
import ShaderDowngrade.UnknownName

/-!
# Ledgers as JSON

A ledger is written as an object with its entries and its stage, all fields in alphabetical order.
Reading is more liberal than writing: fields may come in any order or be missing, the stage may be
missing, and the values of an entry are taken leniently. Of several faults the first in reading
order is reported: the text, the shape of the whole, the stage, and then entry by entry.
-/

namespace ShaderDowngrade

/-- Why a text is not a ledger. -/
inductive LedgerError where
  /-- The text is no JSON value. -/
  | unreadable (error : Json.ReadError)
  /-- The value is no object. -/
  | notObject
  /-- The stage is not the name of one. -/
  | unknownStage (name : UnknownName)
  /-- There are no entries. -/
  | noEntries
  /-- The entries are no sequence. -/
  | notSequence
  /-- An entry is no object. -/
  | entryNotObject
  /-- An entry has faulty fields. -/
  | faultyEntry (errors : List FieldError)

namespace Ledger

/-- The ledger as a JSON value. -/
def toJson (l : Ledger) : Json :=
  .obj [("entries", .arr (l.entries.map Entry.toSortedJson)),
    ("kind", l.stage.elim .null fun s ↦ .str s.name)]

/-- The ledger as a JSON text. -/
def encode (l : Ledger) : String := l.toJson.encode

/-- The stage that a value names; none is named by null. -/
def stageOf (value : Json) : Except LedgerError (Option Stage) :=
  match value with
  | .null => .ok none
  | .str s =>
    (s.toString?.bind Stage.ofName?).elim (.error (.unknownStage ⟨.stage, value⟩)) (.ok ∘ some)
  | _ => .error (.unknownStage ⟨.stage, value⟩)

/-- The entry that a value holds. -/
def entryOf (value : Json) : Except LedgerError Entry :=
  match Entry.fieldsOf? value with
  | none => .error .entryNotObject
  | some fields => (Entry.ofFields fields).mapError .faultyEntry

/-- The entries that a value holds. A string or an object counts as the sequence of its characters
or names, none of which is an entry. -/
def entriesOf (value : Json) : Except LedgerError (List Entry) :=
  match value with
  | .arr items => items.mapM entryOf
  | .str s => if s.points.isEmpty then .ok [] else .error .entryNotObject
  | .obj fields => if fields.isEmpty then .ok [] else .error .entryNotObject
  | _ => .error .notSequence

/-- The ledger that a value holds. -/
def ofJson (value : Json) : Except LedgerError Ledger :=
  match Entry.fieldsOf? value with
  | none => .error .notObject
  | some fields => do
    let stage ← stageOf ((fields.lookup ("kind" : CodeString)).getD .null)
    match fields.lookup ("entries" : CodeString) with
    | none => .error .noEntries
    | some entries => return { stage, entries := ← entriesOf entries }

/-- Reads a ledger. -/
def decode (text : String) : Except LedgerError Ledger := do
  ofJson (← (Json.read text).mapError .unreadable)

theorem entriesOf_map {f : Entry → Json}
    (h : ∀ e, (Entry.fieldsOf? (f e)).map Entry.ofFields = some (.ok e)) (es : List Entry) :
    entriesOf (.arr (es.map f)) = .ok es := by
  have one (e : Entry) : entryOf (f e) = .ok e := by
    obtain ⟨fields, hfields, hread⟩ := Option.map_eq_some_iff.1 (h e)
    rw [entryOf, hfields]
    dsimp only
    rw [hread]
    rfl
  induction es with
  | nil => rfl
  | cons e es ih =>
    simp only [entriesOf, List.map_cons, List.mapM_cons, one, bind, Except.bind] at ih ⊢
    simp [ih, pure, Except.pure]

theorem entriesOf_map_toSortedJson (es : List Entry) :
    entriesOf (.arr (es.map Entry.toSortedJson)) = .ok es :=
  entriesOf_map Entry.ofFields_toSortedJson es

theorem ofJson_toJson (l : Ledger) : ofJson l.toJson = .ok l := by
  obtain ⟨stage, entries⟩ := l
  cases stage with
  | none =>
    simp [toJson, ofJson, Entry.fieldsOf?, List.lookup_cons, stageOf, entriesOf_map_toSortedJson,
      bind, Except.bind, pure, Except.pure]
  | some s =>
    simp [toJson, ofJson, Entry.fieldsOf?, List.lookup_cons, stageOf, entriesOf_map_toSortedJson,
      bind, Except.bind, pure, Except.pure, Stage.ofName?_name]

end Ledger

end ShaderDowngrade

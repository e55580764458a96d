import ShaderDowngrade.Ledger.Files
import ShaderDowngrade.Proofs.Command.NewDirectories
import ShaderDowngrade.Proofs.Json.RoundTrip

/-!
# Ledgers that come back

A ledger whose strings are texts is written as ASCII and comes back as it was: from the text that
is written of it, and from a file in which it has been saved.

Main statement: `Ledger.round_trip`.

## Why not every ledger

The two halves of a pair of surrogates, put side by side in a name, are written like the character
that they make up. An integer of more than 4300 digits is not read. No ledger of a run holds either.
-/

namespace ShaderDowngrade

/-- The strings of the entry are texts, and its number of matches is not too long to be read. -/
structure Entry.Portable (e : Entry) : Prop where
  rule : e.rule.IsText
  group : e.group.IsText
  inserted : e.inserted.IsText
  description : e.description.IsText
  matchCount : Json.digitCount e.matchCount ≤ 4300

namespace Ledger

/-- All entries of the ledger can be read back. -/
def Portable (l : Ledger) : Prop := ∀ e ∈ l.entries, e.Portable

variable {l : Ledger}

/-! ## The value of a ledger -/

theorem isText_coe (s : String) : (s : CodeString).IsText := CodeString.isText_ofText _

theorem portable_toSortedJson {e : Entry} (h : e.Portable) : e.toSortedJson.Portable := by
  refine ⟨?_, ?_⟩
  · simp [CodeString.ofString_inj]
  · exact ⟨isText_coe _, isText_coe _, isText_coe _, h.description, isText_coe _, trivial,
      isText_coe _, h.group, isText_coe _, h.inserted, isText_coe _, h.matchCount,
      isText_coe _, h.rule, isText_coe _, isText_coe _, trivial⟩

theorem portable_toJson (h : l.Portable) : l.toJson.Portable := by
  refine ⟨?_, isText_coe _,
    Json.portableItems_map fun e he ↦ portable_toSortedJson (h e he), isText_coe _, ?_, trivial⟩
  · simp [CodeString.ofString_inj]
  · cases l.stage with
    | none => trivial
    | some s => exact isText_coe _

theorem height_toJson_le (l : Ledger) : l.toJson.height ≤ 3 := by
  have hitems : Json.heightItems (l.entries.map Entry.toSortedJson) ≤ 1 :=
    Json.heightItems_map_le Entry.toSortedJson (fun _ ↦ Nat.le_refl _) _
  have hstage : (l.stage.elim Json.null fun s ↦ .str s.name).height = 0 := by
    cases l.stage <;> rfl
  simp only [toJson, Json.height, Json.heightFields, hstage]
  omega

/-! ## Texts of ledgers -/

theorem isWritten_encode (h : l.Portable) : ∀ c ∈ l.encode.toList, Json.IsWritten c := by
  rw [encode, Json.encode, String.toList_ofList]
  exact Json.isWritten_encodeAt _ 0 (portable_toJson h)

theorem decode_encode (h : l.Portable) : decode l.encode = .ok l := by
  have hread : Json.read l.encode = .ok l.toJson :=
    Json.read_encode (portable_toJson h) (Nat.le_trans (height_toJson_le l) (by decide))
  rw [decode, hread]
  exact ofJson_toJson l

theorem load_of_read {d : Disk} {p : Path} (h : l.Portable)
    (hread : d.read p = .ok (Utf8.encode l.encode.toList)) : load d p = .ok l := by
  have hreturn : '\r' ∉ l.encode.toList := fun hmem ↦ by
    rcases isWritten_encode h _ hmem with hc | hc
    · exact absurd hc (by decide)
    · exact absurd hc.1 (by decide)
  rw [load, Disk.readText_of_read hreturn hread]
  simp only [Except.mapError, bind, Except.bind, String.ofList_toList, decode_encode h]

theorem load_save {d : Disk} {p : Path} (h : l.Portable) (hsave : (l.save d p).2 = none)
    (hread : ∀ q, (l.save d p).1.place p = .ok q → d.MayRead q) :
    load (l.save d p).1 p = .ok l :=
  load_of_read h (Disk.read_save hsave hread)

/-- A ledger can be saved below directories that are missing, and is there afterwards. -/
theorem load_save_below {d : Disk} {b : Path} {q : Place} {names : List (List Char)}
    {w : List Char} (h : l.Portable) (hplace : d.place b = .ok q)
    (hroom : d.HasRoom q (names ++ [w])) (hpath : (b.below (names ++ [w])).Admissible) :
    (l.save d (b.below (names ++ [w]))).2 = none ∧
      load (l.save d (b.below (names ++ [w]))).1 (b.below (names ++ [w])) = .ok l :=
  ⟨congrArg Prod.snd (Disk.save_below hplace hroom hpath),
    load_of_read h (Disk.read_save_below hplace hroom hpath)⟩

/-- **A ledger comes back.** What is written of it is ASCII and is read as that ledger, so no other
ledger is written like it, and reading once more changes nothing. Where it has been saved, the file
gives the ledger, unless it is an old file that may not be read. Saving succeeds at a path that
leads to a place for a file, and below directories that are missing and can be made. -/
theorem round_trip (l : Ledger) (h : l.Portable) :
    (∀ c ∈ l.encode.toList, c.toNat < 0x80) ∧
    decode l.encode = .ok l ∧
    (∀ l' : Ledger, l'.Portable → l'.encode = l.encode → l' = l) ∧
    (∀ text, decode text = .ok l → decode l.encode = decode text) ∧
    (∀ (d : Disk) (p : Path), (l.save d p).2 = none →
      (∀ q, (l.save d p).1.place p = .ok q → d.MayRead q) → load (l.save d p).1 p = .ok l) ∧
    (∀ (d : Disk) (p : Path) (place : Place) (permissions : Permissions), p.components ≠ [] →
      d.place p = .ok place → d.permissionsOfFile place = .ok permissions →
        (l.save d p).2 = none) ∧
    ∀ (d : Disk) (b : Path) (q : Place) (names : List (List Char)) (w : List Char),
      d.place b = .ok q → d.HasRoom q (names ++ [w]) → (b.below (names ++ [w])).Admissible →
        (l.save d (b.below (names ++ [w]))).2 = none ∧
          load (l.save d (b.below (names ++ [w]))).1 (b.below (names ++ [w])) = .ok l := by
  refine ⟨fun c hc ↦ (isWritten_encode h c hc).toNat_lt, decode_encode h, fun l' h' heq ↦ ?_,
    fun text htext ↦ (decode_encode h).trans htext.symm, fun d p ↦ load_save h,
    fun d p place permissions hname hplace hpermissions ↦ ?_,
    fun d b q names w hplace hroom hpath ↦ load_save_below h hplace hroom hpath⟩
  · have hsame := (decode_encode h').symm.trans ((congrArg decode heq).trans (decode_encode h))
    exact Except.ok.inj hsame
  · exact congrArg Prod.snd (Disk.save_eq_put hplace hname hpermissions)

/-- A quote, a backslash, control characters, a character beyond U+FFFF and a negative number, saved
in a directory that is not there yet. -/
theorem round_trip_special_characters :
    let l : Ledger := ⟨some .fragment, [{ rule := "\"\\\n\x00\x7f🎨", matchCount := -120 }]⟩
    let d : Disk := {}
    let p : Path := ⟨['/'], ["work".toList, "nested".toList, "ledger.json".toList]⟩
    l.Portable ∧ decode l.encode = .ok l ∧ (l.save d p).2 = none ∧
      load (l.save d p).1 p = .ok l := by
  intro l d p
  have h : l.Portable := List.forall_mem_singleton.2
    ⟨isText_coe _, isText_coe _, isText_coe _, isText_coe _, by decide⟩
  have hroom : d.HasRoom ["work".toList] (["nested".toList] ++ ["ledger.json".toList]) := by
    refine ⟨⟨{}, by decide, rfl, rfl⟩, ?_, by decide⟩
    rintro w hw place ⟨rest, rfl⟩
    obtain rfl := Option.some.inj hw
    rfl
  obtain ⟨-, hdecode, -, -, -, -, hbelow⟩ := round_trip l h
  exact ⟨h, hdecode, hbelow d ⟨['/'], ["work".toList]⟩ ["work".toList] ["nested".toList]
    "ledger.json".toList (by decide) hroom ⟨by decide, by decide⟩⟩

end Ledger

end ShaderDowngrade

import ShaderDowngrade.Command.Source
import ShaderDowngrade.Proofs.Text.Utf8

/-!
# Files that have been written

What is put at a place is there, and what is elsewhere stays. A path goes through directories up to
its last name, so a file that is put where there is no directory leads no path elsewhere. Hence a
file that has been written at a path is there at that path, and can be read unless it is an old file
that could not be read before.

Main statements: `Disk.place_eq_ok_iff`, where a path leads; `Disk.read_eq_ok_iff`, when a file can
be read; `Disk.exists_put_of_write`, what writing a file comes to.
-/

namespace ShaderDowngrade

/-- The system takes the path: it has no NUL, and it is not too long. -/
def Path.Admissible (p : Path) : Prop := p.hasNul = false ∧ p.byteSize ≤ Disk.maxPathBytes

namespace Disk

variable {d d' : Disk} {place q r : Place} {item : Item} {p : Path} {bytes : List UInt8}
  {permissions : Permissions}

/-! ## Places -/

@[simp] theorem here_put : (d.put place item).here = d.here := rfl

theorem item?_put (h : place ≠ []) : (d.put place item).item? place = some item := by
  rw [item?, if_neg h, put, List.lookup_cons_self]

theorem item?_put_of_ne (h : q ≠ place) : (d.put place item).item? q = d.item? q := by
  have key (items : List (Place × Item)) :
      (items.filter (·.1 ≠ place)).lookup q = items.lookup q := by
    induction items with
    | nil => rfl
    | cons n items ih =>
      obtain ⟨r, m⟩ := n
      by_cases hr : r = place
      · have hq : (q == r) = false := beq_false_of_ne (hr ▸ h)
        rw [List.filter_cons_of_neg (by simpa using hr), ih, List.lookup_cons, hq]
      · rw [List.filter_cons_of_pos (by simpa using hr), List.lookup_cons, List.lookup_cons, ih]
  simp only [item?, put, List.lookup_cons, beq_false_of_ne h, key]

/-- There is a directory at the place. -/
def HasDirectory (d : Disk) (place : Place) : Prop :=
  ∃ permissions, d.item? place = some ⟨.directory, permissions⟩

theorem ne_nil_of_not_hasDirectory (h : ¬ d.HasDirectory place) : place ≠ [] := by
  rintro rfl
  exact h ⟨d.root, rfl⟩

theorem hasDirectory_of_isDirectory_iff :
    d.isDirectory p = true ↔ ∃ q, d.place p = .ok q ∧ d.HasDirectory q := by
  rw [isDirectory]
  match d.place p with
  | .error obstacle => simp
  | .ok q =>
    match hitem : d.item? q with
    | none => simp [HasDirectory, hitem]
    | some ⟨.directory, permissions⟩ => simp [HasDirectory, hitem]
    | some ⟨.file bytes, permissions⟩ => simp [HasDirectory, hitem]

/-! ## Where paths lead -/

theorem walk_cons_eq_ok_iff {w : List Char} {ws : List (List Char)} :
    d.walk q (w :: ws) = .ok r ↔
      (∃ permissions, d.item? q = some ⟨.directory, permissions⟩ ∧ permissions.search = true) ∧
        (String.ofList w).utf8ByteSize ≤ maxNameBytes ∧
        d.walk (if w = ['.', '.'] then q.dropLast else q ++ [w]) ws = .ok r := by
  constructor
  · intro h
    rw [walk] at h
    split at h
    · cases h
    · cases h
    · rename_i permissions hitem
      split at h
      · cases h
      · rename_i hsearch
        split at h
        · cases h
        · exact ⟨⟨permissions, hitem, by simpa using hsearch⟩, Nat.le_of_not_lt ‹_›, h⟩
  · rintro ⟨⟨permissions, hitem, hsearch⟩, hname, hws⟩
    rw [walk, hitem]
    dsimp only
    rw [hsearch, if_neg (by decide), if_neg (Nat.not_lt.2 hname)]
    exact hws

theorem walk_append (q : Place) (ws vs : List (List Char)) :
    d.walk q (ws ++ vs) = d.walk q ws >>= fun r ↦ d.walk r vs := by
  induction ws generalizing q with
  | nil => rfl
  | cons w ws ih =>
    rw [List.cons_append, walk, walk]
    match d.item? q with
    | none => rfl
    | some ⟨.file bytes, permissions⟩ => rfl
    | some ⟨.directory, permissions⟩ =>
      dsimp only
      split
      · rfl
      · split
        · rfl
        · exact ih _

theorem place_eq_ok_iff :
    d.place p = .ok q ↔ p.Admissible ∧ d.walk (d.start p) p.components = .ok q := by
  rw [place, Path.Admissible]
  by_cases hnul : p.hasNul = true
  · simp [hnul]
  by_cases hsize : maxPathBytes < p.byteSize
  · simp [hnul, hsize, Nat.not_le.2 hsize]
  · rw [if_neg hnul, if_neg hsize,
      and_iff_right ⟨Bool.eq_false_iff.2 hnul, Nat.le_of_not_lt hsize⟩]

/-- The directories of the one disk are on the other as well. -/
structure KeepsDirectories (d d' : Disk) : Prop where
  /-- The current directory stays the same. -/
  here_eq : d'.here = d.here
  /-- Directories keep their permissions, too. -/
  item?_eq : ∀ q permissions, d.item? q = some ⟨.directory, permissions⟩ →
    d'.item? q = some ⟨.directory, permissions⟩

theorem KeepsDirectories.trans {d'' : Disk} (h : d.KeepsDirectories d')
    (h' : d'.KeepsDirectories d'') : d.KeepsDirectories d'' :=
  ⟨h'.here_eq.trans h.here_eq, fun q _ hq ↦ h'.item?_eq q _ (h.item?_eq q _ hq)⟩

theorem KeepsDirectories.start_eq (h : d.KeepsDirectories d') (p : Path) :
    d'.start p = d.start p := by
  rw [start, start, h.here_eq]

theorem KeepsDirectories.walk_eq (h : d.KeepsDirectories d') {ws : List (List Char)} {q r : Place}
    (hwalk : d.walk q ws = .ok r) : d'.walk q ws = .ok r := by
  induction ws generalizing q with
  | nil => exact hwalk
  | cons w ws ih =>
    obtain ⟨⟨permissions, hq, hsearch⟩, hname, hws⟩ := walk_cons_eq_ok_iff.1 hwalk
    exact walk_cons_eq_ok_iff.2 ⟨⟨permissions, h.item?_eq q _ hq, hsearch⟩, hname, ih hws⟩

theorem KeepsDirectories.place_eq (h : d.KeepsDirectories d') (hplace : d.place p = .ok q) :
    d'.place p = .ok q := by
  obtain ⟨hpath, hwalk⟩ := place_eq_ok_iff.1 hplace
  rw [← h.start_eq p] at hwalk
  exact place_eq_ok_iff.2 ⟨hpath, h.walk_eq hwalk⟩

theorem keepsDirectories_put (h : ¬ d.HasDirectory place) :
    d.KeepsDirectories (d.put place item) := by
  refine ⟨rfl, ?_⟩
  intro q permissions hq
  have hne : q ≠ place := by
    rintro rfl
    exact h ⟨permissions, hq⟩
  rw [item?_put_of_ne hne]
  exact hq

/-! ## Reading and writing -/

theorem read_eq_ok_iff : d.read p = .ok bytes ↔
    ∃ q permissions, d.place p = .ok q ∧ d.item? q = some ⟨.file bytes, permissions⟩ ∧
      permissions.read = true := by
  constructor
  · intro h
    rw [read] at h
    split at h
    · cases h
    · rename_i q hplace
      split at h
      · cases h
      · rename_i node permissions hitem
        split at h
        · cases h
        · rename_i hread
          split at h
          · cases h
          · obtain rfl := Except.ok.inj h
            exact ⟨q, permissions, hplace, hitem, by simpa using hread⟩
  · rintro ⟨q, permissions, hplace, hitem, hread⟩
    rw [read, hplace]
    dsimp only
    rw [hitem]
    dsimp only
    rw [hread, if_neg (by decide)]

/-- What is at the place, if anything is, may be read. -/
def MayRead (d : Disk) (place : Place) : Prop :=
  ∀ item, d.item? place = some item → item.permissions.read = true

theorem mayRead_of_free {place : Place} (h : d.item? place = none) : d.MayRead place := by
  intro item hitem
  cases h.symm.trans hitem

theorem permissionsOfFile_eq_ok_iff : d.permissionsOfFile q = .ok permissions ↔
    (∃ old, d.item? q = some ⟨.file old, permissions⟩ ∧ permissions.write = true) ∨
      d.item? q = none ∧ d.mayMake q = true ∧ permissions = {} := by
  constructor
  · intro h
    rw [permissionsOfFile] at h
    split at h
    · cases h
    · rename_i old permissions' hitem
      split at h
      · rename_i hwrite
        obtain rfl := Except.ok.inj h
        exact .inl ⟨old, hitem, hwrite⟩
      · cases h
    · rename_i hitem
      split at h
      · rename_i hmake
        exact .inr ⟨hitem, hmake, (Except.ok.inj h).symm⟩
      · cases h
  · rintro (⟨old, hitem, hwrite⟩ | ⟨hitem, hmake, rfl⟩)
    · rw [permissionsOfFile, hitem]
      exact if_pos hwrite
    · rw [permissionsOfFile, hitem]
      exact if_pos hmake

theorem not_hasDirectory_of_permissionsOfFile (h : d.permissionsOfFile q = .ok permissions) :
    ¬ d.HasDirectory q := by
  rintro ⟨permissions', hdirectory⟩
  rw [permissionsOfFile, hdirectory] at h
  cases h

theorem exists_put_of_write (h : d.write p bytes = .ok d') :
    ∃ q permissions, d.place p = .ok q ∧ d.permissionsOfFile q = .ok permissions ∧
      d' = d.put q ⟨.file bytes, permissions⟩ := by
  rw [write] at h
  match hplace : d.place p with
  | .error obstacle =>
    rw [hplace] at h
    cases h
  | .ok q =>
    rw [hplace] at h
    dsimp only at h
    match hpermissions : d.permissionsOfFile q with
    | .error obstacle =>
      rw [hpermissions] at h
      cases h
    | .ok permissions =>
      rw [hpermissions] at h
      exact ⟨q, permissions, rfl, hpermissions, (Except.ok.inj h).symm⟩

theorem readText_of_read {text : Text} (hreturn : '\r' ∉ text)
    (h : d.read p = .ok (Utf8.encode text)) : d.readText p = .ok text := by
  have hsource : sourceText (Utf8.encode text) = .ok text := by
    rw [sourceText, Utf8.decode_encode]
    exact congrArg _ (Utf8.unifyNewlines_of_notMem hreturn)
  rw [readText, h]
  exact hsource

end Disk

end ShaderDowngrade

import ShaderDowngrade.Proofs.Command.WrittenFiles

/-!
# Files that are saved one after the other

Saving a file may make directories, but it never takes one away, so a path that led somewhere still
leads there. What is at other places than that of the file stays as well. Hence several files that
have been saved in turn can all be read, if no two of the paths lead to the same place in the end.

Main statements: `Disk.exists_savedAt`, what saving a file comes to; `Disk.Takes.read_saveAll`, all
files are read back.

## Why the paths are compared in the end

A path through a directory that is still missing leads nowhere yet. Which place it leads to shows
when the directories have been made, and does not change after that.

## Why files can be written and not be read

A file that is written over keeps its permissions, and an old file may be one that its user may
write and not read. Nothing can be said about reading such a file back. A new file can always be
read.
-/

namespace ShaderDowngrade.Disk

variable {d d' d'' : Disk} {p r : Path} {q x : Place} {item : Item} {bytes more : List UInt8}

/-! ## Making directories -/

/-- There may be more directories on the second disk, and nothing else is new there or gone. -/
structure Extends (d d' : Disk) : Prop where
  here_eq : d'.here = d.here
  kept : ∀ x item, d.item? x = some item → d'.item? x = some item
  made : ∀ x item, d'.item? x = some item →
    d.item? x = some item ∨ item = { node := .directory }

theorem Extends.refl (d : Disk) : d.Extends d := ⟨rfl, fun _ _ ↦ id, fun _ _ ↦ .inl⟩

theorem Extends.trans (h : d.Extends d') (h' : d'.Extends d'') : d.Extends d'' := by
  refine ⟨h'.here_eq.trans h.here_eq, fun x item hx ↦ h'.kept x item (h.kept x item hx), ?_⟩
  intro x item hx
  rcases h'.made x item hx with hx' | hdirectory
  · exact h.made x item hx'
  · exact .inr hdirectory

theorem extends_makeDirectory (h : d.makeDirectory p = .ok d') : d.Extends d' := by
  rw [makeDirectory] at h
  split at h
  · cases h
  rename_i place _
  split at h
  · cases h
  rename_i hnone
  split at h
  · obtain rfl := Except.ok.inj h
    have hne : place ≠ [] := by
      rintro rfl
      cases hnone
    refine ⟨rfl, ?_, ?_⟩
    · intro x item hx
      have hother : x ≠ place := by
        rintro rfl
        rw [hnone] at hx
        cases hx
      rw [item?_put_of_ne hother]
      exact hx
    · intro x item hx
      by_cases hsame : x = place
      · subst hsame
        rw [item?_put hne] at hx
        exact .inr (Option.some.inj hx).symm
      · rw [item?_put_of_ne hsame] at hx
        exact .inl hx
  · cases h

theorem extends_ensureDirectory (d : Disk) (p : Path) : d.Extends (d.ensureDirectory p).1 := by
  rw [ensureDirectory]
  split
  · exact extends_makeDirectory ‹_›
  · split
    · exact .refl d
    · exact .refl d

theorem extends_ensureDirectoriesWithin (d : Disk) (p : Path) (depth : ℕ) :
    d.Extends (d.ensureDirectoriesWithin p depth).1 := by
  induction depth generalizing p with
  | zero => exact extends_ensureDirectory d p
  | succ depth ih =>
    rw [ensureDirectoriesWithin]
    split
    · split
      · exact .refl d
      · have hparent := ih p.parent
        split
        · rename_i made hmade
          rw [hmade] at hparent
          exact hparent.trans (extends_ensureDirectory made p)
        · exact hparent
    · exact extends_ensureDirectory d p

/-! ## Saving one file -/

/-- A file has been saved at a place. It is there, and can be read unless what was there before
could not; what is elsewhere stays, and nothing is new there but directories. -/
structure SavedAt (d d' : Disk) (q : Place) (bytes : List UInt8) : Prop where
  here_eq : d'.here = d.here
  exists_item : ∃ permissions, d'.item? q = some ⟨.file bytes, permissions⟩ ∧
    (d.MayRead q → permissions.read = true)
  not_hasDirectory : ¬ d.HasDirectory q
  kept : ∀ x item, x ≠ q → d.item? x = some item → d'.item? x = some item
  made : ∀ x item, x ≠ q → d'.item? x = some item →
    d.item? x = some item ∨ item = { node := .directory }

theorem SavedAt.keepsDirectories (h : d.SavedAt d' q bytes) : d.KeepsDirectories d' := by
  refine ⟨h.here_eq, ?_⟩
  intro x permissions hx
  refine h.kept x _ ?_ hx
  rintro rfl
  exact h.not_hasDirectory ⟨permissions, hx⟩

theorem SavedAt.mayRead (h : d.SavedAt d' q bytes) (hne : x ≠ q) (hx : d.MayRead x) :
    d'.MayRead x := by
  intro item hitem
  rcases h.made x item hne hitem with hold | rfl
  · exact hx item hold
  · rfl

theorem savedAt_put {permissions : Permissions} (h : d.Extends d')
    (hpermissions : d'.permissionsOfFile q = .ok permissions) :
    d.SavedAt (d'.put q ⟨.file bytes, permissions⟩) q bytes := by
  have hfree := not_hasDirectory_of_permissionsOfFile hpermissions
  refine ⟨h.here_eq, ⟨permissions, item?_put (ne_nil_of_not_hasDirectory hfree), ?_⟩, ?_, ?_, ?_⟩
  · intro hread
    rcases permissionsOfFile_eq_ok_iff.1 hpermissions with ⟨old, hold, -⟩ | ⟨-, -, rfl⟩
    · rcases h.made q _ hold with hbefore | hdirectory
      · exact hread _ hbefore
      · cases hdirectory
    · rfl
  · rintro ⟨permissions', hdirectory⟩
    exact hfree ⟨permissions', h.kept q _ hdirectory⟩
  · intro x item hne hx
    rw [item?_put_of_ne hne]
    exact h.kept x item hx
  · intro x item hne hx
    rw [item?_put_of_ne hne] at hx
    exact h.made x item hx

/-- **What saving a file comes to.** If it does not fail, then the file has been saved at the place
that its path leads to then. -/
theorem exists_savedAt (h : (d.save p bytes).2 = none) :
    ∃ q, (d.save p bytes).1.place p = .ok q ∧ d.SavedAt (d.save p bytes).1 q bytes := by
  have hextends := extends_ensureDirectoriesWithin d p.parent p.parent.components.length
  change d.Extends (d.ensureDirectories p.parent).1 at hextends
  rw [save] at h ⊢
  split at h
  · rename_i made hmade
    rw [hmade] at hextends
    split at h
    · rename_i written hwrite
      obtain ⟨q, permissions, hplace, hpermissions, rfl⟩ := exists_put_of_write hwrite
      have hfree := not_hasDirectory_of_permissionsOfFile hpermissions
      exact ⟨q, (keepsDirectories_put hfree).place_eq hplace, savedAt_put hextends hpermissions⟩
    · cases h
  · rename_i failed
    exact (failed _ (Prod.ext rfl h)).elim

theorem keepsDirectories_save (h : (d.save p bytes).2 = none) :
    d.KeepsDirectories (d.save p bytes).1 := by
  obtain ⟨q, -, hsaved⟩ := exists_savedAt h
  exact hsaved.keepsDirectories

/-- **What has been saved at a path is read there**, unless it was there before and could not be
read. -/
theorem read_save (h : (d.save p bytes).2 = none)
    (hread : ∀ q, (d.save p bytes).1.place p = .ok q → d.MayRead q) :
    (d.save p bytes).1.read p = .ok bytes := by
  obtain ⟨q, hplace, hsaved⟩ := exists_savedAt h
  obtain ⟨permissions, hitem, hpermission⟩ := hsaved.exists_item
  exact read_eq_ok_iff.2 ⟨q, permissions, hplace, hitem, hpermission (hread q hplace)⟩

theorem read_save_of_ne (h : (d.save p bytes).2 = none) (hread : d.read r = .ok more)
    (hne : (d.save p bytes).1.place p ≠ (d.save p bytes).1.place r) :
    (d.save p bytes).1.read r = .ok more := by
  obtain ⟨q, hplace, hsaved⟩ := exists_savedAt h
  obtain ⟨x, permissions, hx, hfile, hpermission⟩ := read_eq_ok_iff.1 hread
  have hx' := hsaved.keepsDirectories.place_eq hx
  refine read_eq_ok_iff.2 ⟨x, permissions, hx', hsaved.kept x _ ?_ hfile, hpermission⟩
  rintro rfl
  exact hne (hplace.trans hx'.symm)

/-! ## Saving several files -/

/-- Saves texts one after the other, up to the first that cannot be saved. -/
def saveAll (d : Disk) : List (Path × Text) → Disk × Option FileFault
  | [] => (d, none)
  | (p, text) :: files =>
    match d.saveText p text with
    | (d, none) => d.saveAll files
    | failed => failed

/-- The disk takes the files: all of them can be saved, in turn, their paths lead to different
places, and what is at these places, if anything is, may be read. -/
structure Takes (d : Disk) (files : List (Path × Text)) : Prop where
  saved : (d.saveAll files).2 = none
  distinct : files.Pairwise fun f g ↦
    (d.saveAll files).1.place f.1 ≠ (d.saveAll files).1.place g.1
  mayRead : ∀ f ∈ files, ∀ q, (d.saveAll files).1.place f.1 = .ok q → d.MayRead q

variable {text : Text} {files : List (Path × Text)}

theorem saveAll_cons (h : (d.saveAll ((p, text) :: files)).2 = none) :
    (d.saveText p text).2 = none ∧ ((d.saveText p text).1.saveAll files).2 = none ∧
      d.saveAll ((p, text) :: files) = (d.saveText p text).1.saveAll files := by
  rw [saveAll] at h ⊢
  split at h
  · rename_i saved hsaved
    rw [hsaved]
    exact ⟨rfl, h, rfl⟩
  · rename_i failed
    exact (failed _ (Prod.ext rfl h)).elim

theorem keepsDirectories_saveAll (h : (d.saveAll files).2 = none) :
    d.KeepsDirectories (d.saveAll files).1 := by
  induction files generalizing d with
  | nil => exact ⟨rfl, fun _ _ hq ↦ hq⟩
  | cons f files ih =>
    obtain ⟨hfirst, hrest, heq⟩ := saveAll_cons h
    rw [heq]
    exact (keepsDirectories_save hfirst).trans (ih hrest)

/-- A path leads in the end to where it leads once the first file has been saved. -/
theorem place_saveAll_cons (h : (d.saveAll ((p, text) :: files)).2 = none)
    (hplace : (d.saveText p text).1.place r = .ok q) :
    (d.saveAll ((p, text) :: files)).1.place r = .ok q := by
  obtain ⟨-, hrest, heq⟩ := saveAll_cons h
  rw [heq]
  exact (keepsDirectories_saveAll hrest).place_eq hplace

theorem read_saveAll_of_ne (h : (d.saveAll files).2 = none) (hread : d.read r = .ok more)
    (hne : ∀ f ∈ files, (d.saveAll files).1.place f.1 ≠ (d.saveAll files).1.place r) :
    (d.saveAll files).1.read r = .ok more := by
  induction files generalizing d with
  | nil => exact hread
  | cons f files ih =>
    obtain ⟨hfirst, hrest, heq⟩ := saveAll_cons h
    rw [heq] at hne ⊢
    obtain ⟨hother, hothers⟩ := List.forall_mem_cons.1 hne
    refine ih hrest (read_save_of_ne hfirst hread fun hsame ↦ hother ?_) hothers
    -- if the two paths led to one place now, they would still do so in the end
    obtain ⟨q, hplace, -⟩ := exists_savedAt hfirst
    have hkeeps := keepsDirectories_saveAll hrest
    rw [hkeeps.place_eq hplace, hkeeps.place_eq (hsame.symm.trans hplace)]

/-- **All files are read back.** -/
theorem Takes.read_saveAll (h : d.Takes files) : ∀ f ∈ files,
    (d.saveAll files).1.read f.1 = .ok (Utf8.encode f.2) := by
  obtain ⟨hsaved, hdistinct, hmayRead⟩ := h
  induction files generalizing d with
  | nil => exact fun f hf ↦ absurd hf List.not_mem_nil
  | cons f files ih =>
    obtain ⟨hfirst, hrest, heq⟩ := saveAll_cons hsaved
    rw [heq] at hdistinct hmayRead ⊢
    obtain ⟨hapart, hothers⟩ := List.pairwise_cons.1 hdistinct
    obtain ⟨hreadable, hothersReadable⟩ := List.forall_mem_cons.1 hmayRead
    obtain ⟨x, hx, hsavedAt⟩ := exists_savedAt hfirst
    have hend := (keepsDirectories_saveAll hrest).place_eq hx
    refine List.forall_mem_cons.2 ⟨?_, ih hrest hothers ?_⟩
    · refine read_saveAll_of_ne hrest (read_save hfirst ?_) fun g hg ↦ (hapart g hg).symm
      intro q hq
      exact hreadable q ((keepsDirectories_saveAll hrest).place_eq hq)
    · intro g hg q hq
      refine hsavedAt.mayRead ?_ (hothersReadable g hg q hq)
      rintro rfl
      exact hapart g hg (hend.trans hq.symm)

end ShaderDowngrade.Disk

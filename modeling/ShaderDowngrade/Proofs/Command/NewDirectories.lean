import Mathlib.Data.List.Induction
import ShaderDowngrade.Proofs.Command.SavedFiles

/-!
# When saving does not fail

A file can be saved at a path that leads to a place for a file: to an old file that may be written,
or into a directory where the user may make something. It can also be saved if the last directories
of the path are missing, as long as they can be made: below a directory where the user may make
something and where their names are free.

Main statements: `Disk.save_eq_put`, a file in a directory that is there; `Disk.save_below` and
`Disk.read_save_below`, a file below directories that are still missing.

## From the inside out

What is missing is found from the inside out. First the innermost directory is tried, then the one
around it, and so on until one can be made, and then the others are made on the way back. So the
induction is on the missing names from their end, and on the way back all the directories before the
last name are there (`Disk.grow`).
-/

namespace ShaderDowngrade

/-! ## Parts of paths -/

namespace Path

variable {p b : Path} {names : List (List Char)} {w : List Char}

theorem parent_below (b : Path) (names : List (List Char)) (w : List Char) :
    (b.below (names ++ [w])).parent = b.below names := by
  rw [below, below, parent, ← List.append_assoc, List.dropLast_concat]

theorem intercalate_isPrefix (ws : List (List Char)) (w : List Char) :
    ['/'].intercalate ws <+: ['/'].intercalate (ws ++ [w]) := by
  induction ws with
  | nil => exact List.nil_prefix
  | cons v ws ih =>
    match ws with
    | [] =>
      rw [List.singleton_append, List.intercalate_singleton, List.intercalate_cons_cons,
        List.append_assoc]
      exact List.prefix_append _ _
    | v' :: ws =>
      rw [List.cons_append, List.cons_append, List.intercalate_cons_cons,
        List.intercalate_cons_cons]
      exact (List.prefix_append_right_inj _).2 ih

theorem byteSize_parent_le (p : Path) : p.parent.byteSize ≤ max p.byteSize 1 := by
  obtain ⟨root, components⟩ := p
  rcases List.eq_nil_or_concat components with rfl | ⟨ws, w, rfl⟩
  · exact Nat.le_max_left _ _
  · obtain ⟨more, hmore⟩ := intercalate_isPrefix ws w
    have hsize : Path.byteSize ⟨root, ws ++ [w]⟩ =
        (String.ofList (root ++ ['/'].intercalate ws)).utf8ByteSize +
          (String.ofList more).utf8ByteSize := by
      rw [Path.byteSize, Path.toString, if_neg (by simp), ← hmore, ← List.append_assoc,
        String.ofList_append, String.utf8ByteSize_append]
    rw [List.concat_eq_append, hsize, Path.parent, List.dropLast_concat, Path.byteSize,
      Path.toString]
    dsimp only
    split
    · exact Nat.le_max_right _ _
    · omega

theorem Admissible.parent (h : p.Admissible) : p.parent.Admissible := by
  obtain ⟨hnul, hsize⟩ := h
  constructor
  · rw [Path.hasNul, List.any_eq_false] at hnul ⊢
    exact fun w hw ↦ hnul w (List.dropLast_subset _ hw)
  · have hparent := byteSize_parent_le p
    have : 1 ≤ Disk.maxPathBytes := by decide
    omega

theorem Admissible.of_below (h : (b.below (names ++ [w])).Admissible) :
    (b.below names).Admissible := by
  rw [← parent_below b names w]
  exact h.parent

end Path

namespace Disk

variable {d : Disk} {p b : Path} {place q : Place} {bytes : List UInt8} {permissions : Permissions}
  {v w : List Char} {names : List (List Char)}

/-! ## Directories that are there -/

theorem makeDirectory_of_isDirectory (h : d.isDirectory p = true) :
    d.makeDirectory p = .error ⟨.path .alreadyExists, p⟩ := by
  obtain ⟨q, hplace, permissions, hq⟩ := hasDirectory_of_isDirectory_iff.1 h
  rw [makeDirectory, hplace]
  dsimp only
  rw [hq]

theorem ensureDirectoriesWithin_of_isDirectory (h : d.isDirectory p = true) (depth : ℕ) :
    d.ensureDirectoriesWithin p depth = (d, none) := by
  have hensure : d.ensureDirectory p = (d, none) := by
    rw [ensureDirectory, makeDirectory_of_isDirectory h]
    exact if_pos h
  rcases depth with _ | depth
  · exact hensure
  · rw [ensureDirectoriesWithin, makeDirectory_of_isDirectory h]
    exact hensure

theorem isDirectory_parent (hplace : d.place p = .ok place) (h : p.components ≠ []) :
    d.isDirectory p.parent = true := by
  obtain ⟨hpath, hwalk⟩ := place_eq_ok_iff.1 hplace
  rw [← List.dropLast_concat_getLast h, walk_append] at hwalk
  match hparent : d.walk (d.start p) p.components.dropLast with
  | .error obstacle =>
    rw [hparent] at hwalk
    cases hwalk
  | .ok q =>
    rw [hparent] at hwalk
    obtain ⟨⟨permissions, hq, -⟩, -⟩ := walk_cons_eq_ok_iff.1 hwalk
    exact hasDirectory_of_isDirectory_iff.2
      ⟨q, place_eq_ok_iff.2 ⟨hpath.parent, hparent⟩, permissions, hq⟩

/-- **A file is saved** if its path leads to a place for a file. -/
theorem save_eq_put (hplace : d.place p = .ok place) (hname : p.components ≠ [])
    (h : d.permissionsOfFile place = .ok permissions) :
    d.save p bytes = (d.put place ⟨.file bytes, permissions⟩, none) := by
  have hwrite : d.write p bytes = .ok (d.put place ⟨.file bytes, permissions⟩) := by
    rw [write, hplace]
    dsimp only
    rw [h]
  rw [save, ensureDirectories,
    ensureDirectoriesWithin_of_isDirectory (isDirectory_parent hplace hname)]
  dsimp only
  rw [hwrite]

/-! ## Directories that are missing -/

/-- The user may go through the directory at a place, and make something in it. -/
def Opens (d : Disk) (q : Place) : Prop :=
  ∃ permissions, d.item? q = some ⟨.directory, permissions⟩ ∧ permissions.search = true ∧
    permissions.write = true

/-- Below a place there is room for files and directories of these names, one in the other: the user
may make something there, the first name is free, and they all are names. -/
structure HasRoom (d : Disk) (q : Place) (names : List (List Char)) : Prop where
  opens : d.Opens q
  free : ∀ w ∈ names.head?, ∀ place, q ++ [w] <+: place → d.item? place = none
  isName : ∀ w ∈ names, w ≠ ['.', '.'] ∧ (String.ofList w).utf8ByteSize ≤ maxNameBytes

/-- The disk after directories of these names have been made, one in the other. -/
def grow (d : Disk) (q : Place) : List (List Char) → Disk
  | [] => d
  | w :: ws => (d.put (q ++ [w]) { node := .directory }).grow (q ++ [w]) ws

theorem opens_put (q : Place) (w : List Char) :
    (d.put (q ++ [w]) { node := .directory }).Opens (q ++ [w]) :=
  ⟨{}, item?_put (by simp), rfl, rfl⟩

theorem here_grow (d : Disk) (q : Place) (names : List (List Char)) :
    (d.grow q names).here = d.here := by
  induction names generalizing d q with
  | nil => rfl
  | cons w ws ih => rw [grow, ih, here_put]

theorem item?_grow_of_not (h : ∀ us, us ≠ [] → us <+: names → place ≠ q ++ us) :
    (d.grow q names).item? place = d.item? place := by
  induction names generalizing d q with
  | nil => rfl
  | cons w ws ih =>
    rw [grow, ih, item?_put_of_ne]
    · exact h [w] (by simp) (by simp)
    · intro us _ hus
      rw [List.append_assoc]
      exact h (w :: us) (by simp) (List.cons_prefix_cons.2 ⟨rfl, hus⟩)

theorem item?_grow_of_le (h : place.length ≤ q.length) :
    (d.grow q names).item? place = d.item? place := by
  refine item?_grow_of_not ?_
  rintro us hne - rfl
  have hlength := List.length_pos_iff.2 hne
  rw [List.length_append] at h
  omega

theorem opens_grow (h : d.Opens q) : (d.grow q names).Opens (q ++ names) := by
  induction names generalizing d q with
  | nil => rwa [List.append_nil]
  | cons w ws ih =>
    rw [grow, List.append_cons q w ws]
    exact ih (opens_put q w)

theorem walk_grow (h : d.Opens q)
    (hnames : ∀ w ∈ names, w ≠ ['.', '.'] ∧ (String.ofList w).utf8ByteSize ≤ maxNameBytes) :
    (d.grow q names).walk q names = .ok (q ++ names) := by
  induction names generalizing d q with
  | nil => rw [List.append_nil, walk]
  | cons w ws ih =>
    obtain ⟨⟨hdots, hsize⟩, hrest⟩ := List.forall_mem_cons.1 hnames
    obtain ⟨permissions, hq, hsearch, -⟩ := h
    rw [← item?_grow_of_le (le_refl _)] at hq
    refine walk_cons_eq_ok_iff.2 ⟨⟨permissions, hq, hsearch⟩, hsize, ?_⟩
    rw [if_neg hdots, grow, List.append_cons q w ws]
    exact ih (opens_put q w) hrest

theorem grow_append_singleton (d : Disk) (q : Place) (names : List (List Char)) (w : List Char) :
    d.grow q (names ++ [w]) =
      (d.grow q names).put (q ++ names ++ [w]) { node := .directory } := by
  induction names generalizing d q with
  | nil => simp [grow]
  | cons v vs ih => rw [List.cons_append, grow, ih, grow, List.append_cons q v vs]

namespace HasRoom

theorem item?_eq_none (h : d.HasRoom q names) {us : List (List Char)} (hne : us ≠ [])
    (hus : us <+: names) : d.item? (q ++ us) = none := by
  obtain ⟨u, us, rfl⟩ := List.exists_cons_of_ne_nil hne
  obtain ⟨rest, rfl⟩ := hus
  refine h.free u (by simp) _ ?_
  rw [List.append_cons q u us]
  exact List.prefix_append _ _

theorem of_append (h : d.HasRoom q (names ++ [w])) : d.HasRoom q names := by
  refine ⟨h.opens, ?_, fun v hv ↦ h.isName v (List.mem_append_left _ hv)⟩
  intro v hv
  exact h.free v (by simp [Option.mem_def.1 hv])

theorem keepsDirectories (h : d.HasRoom q names) : d.KeepsDirectories (d.grow q names) := by
  refine ⟨here_grow d q names, ?_⟩
  intro x permissions hx
  rw [item?_grow_of_not]
  · exact hx
  · rintro us hne hus rfl
    rw [h.item?_eq_none hne hus] at hx
    cases hx

/-- Where the last name leads when the directories before it have been made: nothing is there, and
something can be made. -/
theorem place_grow (h : d.HasRoom q (names ++ [w])) (hplace : d.place b = .ok q)
    (hpath : (b.below (names ++ [w])).Admissible) :
    (d.grow q names).place (b.below (names ++ [w])) = .ok (q ++ names ++ [w]) ∧
      (d.grow q names).item? (q ++ names ++ [w]) = none ∧
      (d.grow q names).mayMake (q ++ names ++ [w]) = true := by
  have hopens : (d.grow q names).Opens (q ++ names) := opens_grow h.opens
  obtain ⟨permissions, hitem, hsearch, hwrite⟩ := hopens
  obtain ⟨-, hwalk⟩ := place_eq_ok_iff.1 hplace
  obtain ⟨hdots, hsize⟩ := h.isName w (by simp)
  refine ⟨place_eq_ok_iff.2 ⟨hpath, ?_⟩, ?_, ?_⟩
  · have hfirst := h.of_append.keepsDirectories.walk_eq hwalk
    have hnames := walk_grow h.opens h.of_append.isName
    rw [h.of_append.keepsDirectories.start_eq]
    change (d.grow q names).walk (d.start b) (b.components ++ (names ++ [w])) = _
    rw [walk_append, hfirst]
    change (d.grow q names).walk q (names ++ [w]) = _
    rw [walk_append, hnames]
    refine walk_cons_eq_ok_iff.2 ⟨⟨permissions, hitem, hsearch⟩, hsize, ?_⟩
    rw [if_neg hdots, walk]
  · rw [item?_grow_of_not, List.append_assoc]
    · exact h.item?_eq_none (by simp) (List.prefix_refl _)
    · rintro us - hus heq
      have hlength := congrArg List.length heq
      have hle := hus.length_le
      simp only [List.length_append, List.length_singleton] at hlength
      omega
  · rw [mayMake, List.dropLast_concat, hitem]
    exact hwrite

theorem makeDirectory_grow (h : d.HasRoom q (names ++ [w])) (hplace : d.place b = .ok q)
    (hpath : (b.below (names ++ [w])).Admissible) :
    (d.grow q names).makeDirectory (b.below (names ++ [w])) = .ok (d.grow q (names ++ [w])) := by
  obtain ⟨hlast, hnone, hmake⟩ := h.place_grow hplace hpath
  rw [makeDirectory, hlast]
  dsimp only
  rw [hnone, grow_append_singleton]
  exact if_pos hmake

/-- As long as the first directory is missing, those in it cannot be made. -/
theorem makeDirectory_eq_error (h : d.HasRoom q (names ++ [w])) (hne : names ≠ [])
    (hplace : d.place b = .ok q) (hpath : (b.below (names ++ [w])).Admissible) :
    d.makeDirectory (b.below (names ++ [w])) =
      .error ⟨.path .notFound, b.below (names ++ [w])⟩ := by
  obtain ⟨u, us, rfl⟩ := List.exists_cons_of_ne_nil hne
  obtain ⟨v, vs, hrest⟩ := List.exists_cons_of_ne_nil (List.append_ne_nil_of_right_ne_nil us
    (List.cons_ne_nil w []))
  obtain ⟨permissions, hitem, hsearch, -⟩ := h.opens
  obtain ⟨hdots, hsize⟩ := h.isName u (by simp)
  have hmissing : d.item? (q ++ [u]) = none := h.item?_eq_none (by simp) ⟨us ++ [w], rfl⟩
  have hwalk : d.walk q (u :: us ++ [w]) = .error (.path .notFound) := by
    rw [List.cons_append, hrest, walk, hitem]
    dsimp only
    rw [hsearch, if_neg (by decide), if_neg (Nat.not_lt.2 hsize), if_neg hdots, walk, hmissing]
  have hlast : d.place (b.below (u :: us ++ [w])) = .error (.path .notFound) := by
    rw [place, if_neg (Bool.eq_false_iff.1 hpath.1), if_neg (Nat.not_lt.2 hpath.2)]
    change d.walk (d.start b) (b.components ++ (u :: us ++ [w])) = _
    rw [walk_append, (place_eq_ok_iff.1 hplace).2]
    exact hwalk
  rw [makeDirectory, hlast]

theorem ensureDirectoriesWithin_eq (h : d.HasRoom q names) (hplace : d.place b = .ok q)
    (hpath : (b.below names).Admissible) {depth : ℕ} (hdepth : names.length ≤ depth) :
    d.ensureDirectoriesWithin (b.below names) depth = (d.grow q names, none) := by
  induction names using List.reverseRecOn generalizing depth with
  | nil =>
    obtain ⟨permissions, hq, -⟩ := h.opens
    have hb : b.below [] = b := by rw [Path.below, List.append_nil]
    rw [hb, ensureDirectoriesWithin_of_isDirectory
      (hasDirectory_of_isDirectory_iff.2 ⟨q, hplace, permissions, hq⟩)]
    rfl
  | append_singleton names w ih =>
    obtain ⟨depth, rfl⟩ : ∃ n, depth = n + 1 :=
      Nat.exists_eq_succ_of_ne_zero (by rintro rfl; simp at hdepth)
    have hlength : names.length ≤ depth := by simpa using hdepth
    have hlast : (d.grow q names).ensureDirectory (b.below (names ++ [w])) =
        (d.grow q (names ++ [w]), none) := by
      rw [ensureDirectory, h.makeDirectory_grow hplace hpath]
    rw [ensureDirectoriesWithin]
    by_cases hne : names = []
    · subst hne
      have hmake := h.makeDirectory_grow hplace hpath
      rw [grow] at hmake hlast
      rw [hmake]
      exact hlast
    · have hempty : (b.below (names ++ [w])).components.isEmpty = false := by
        simp [Path.below]
      rw [h.makeDirectory_eq_error hne hplace hpath]
      dsimp only
      rw [hempty, if_neg Bool.false_ne_true, Path.parent_below,
        ih h.of_append hpath.of_below hlength]
      exact hlast

end HasRoom

/-- **A file is saved below directories that are missing**, if there is room for them. -/
theorem save_below (hplace : d.place b = .ok q) (h : d.HasRoom q (names ++ [w]))
    (hpath : (b.below (names ++ [w])).Admissible) :
    d.save (b.below (names ++ [w])) bytes =
      ((d.grow q names).put (q ++ names ++ [w]) { node := .file bytes }, none) := by
  obtain ⟨hlast, hnone, hmake⟩ := h.place_grow hplace hpath
  have hparents : d.ensureDirectories (b.below names) = (d.grow q names, none) :=
    h.of_append.ensureDirectoriesWithin_eq hplace hpath.of_below (by simp [Path.below])
  have hpermissions : (d.grow q names).permissionsOfFile (q ++ names ++ [w]) = .ok {} :=
    permissionsOfFile_eq_ok_iff.2 (.inr ⟨hnone, hmake, rfl⟩)
  rw [save, Path.parent_below, hparents]
  dsimp only
  rw [write, hlast]
  dsimp only
  rw [hpermissions]

theorem read_save_below (hplace : d.place b = .ok q) (h : d.HasRoom q (names ++ [w]))
    (hpath : (b.below (names ++ [w])).Admissible) :
    (d.save (b.below (names ++ [w])) bytes).1.read (b.below (names ++ [w])) = .ok bytes := by
  obtain ⟨hlast, hnone, -⟩ := h.place_grow hplace hpath
  have hfree : ¬ (d.grow q names).HasDirectory (q ++ names ++ [w]) := by
    rintro ⟨permissions, hdirectory⟩
    rw [hnone] at hdirectory
    cases hdirectory
  rw [save_below hplace h hpath]
  exact read_eq_ok_iff.2 ⟨_, {}, (keepsDirectories_put hfree).place_eq hlast,
    item?_put (ne_nil_of_not_hasDirectory hfree), rfl⟩

end Disk

end ShaderDowngrade

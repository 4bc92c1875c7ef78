import PlotDeck.Host.FileTree

/-!
# Reading what was written

Two trees **agree** off some names if they have the same home and nothing else differs between them.
A walk that goes on from directories only never notices a change to something that is no directory
(`FileTree.AgreeOff.locate`). So a file that was written is found where it was written, and reads as
what was written to it (`FileTree.readText_write`); and neither making a directory nor writing or
removing a file elsewhere changes what a file reads as (`FileTree.readText_makeDirectory`,
`FileTree.readText_write_of_apart`, `FileTree.readText_remove_of_apart`). A file that is there can
be written again (`FileTree.exists_write_of_isFile`).
-/

namespace PlotDeck

variable {t t' : FileTree} {names : List String} {item : FileItem}
  {here next : List String} {p : Path}

namespace FileTree

/-! ### Walks -/

/-- The trees agree **off** some names: everything else is the same in both. -/
structure AgreeOff (names : List String) (t t' : FileTree) : Prop where
  /-- Paths start at the same directory. -/
  home : t'.home = t.home
  /-- Under other names there is the same. -/
  get? : ∀ other, other ≠ names → t'.get? other = t.get? other

/-- What is no directory is not on the way to the home. -/
theorem not_isSuffix_of_not_directory (h : t.get? names ≠ some .directory) : ¬names <:+ t.home :=
  fun hsuffix => h (get?_of_isSuffix hsuffix)

theorem agreeOff_put (hitem : t.get? names ≠ some .directory) (item : FileItem) :
    AgreeOff names t (t.put names item) where
  home := home_put t names item
  get? _ hother := (get?_put (not_isSuffix_of_not_directory hitem)).trans (if_neg hother)

theorem AgreeOff.symm (h : AgreeOff names t t') : AgreeOff names t' t where
  home := h.home.symm
  get? other hother := (h.get? other hother).symm

theorem AgreeOff.start (h : AgreeOff names t t') (p : Path) : t'.start p = t.start p := by
  rw [FileTree.start, FileTree.start, h.home]

/-- A walk goes on from directories only. -/
theorem get?_of_step {name : String} (h : t.step here name = .ok next) :
    t.get? here = some .directory := by
  rw [step] at h
  split at h
  · cases h
  · cases h
  · next hdir => exact hdir

theorem AgreeOff.step {name : String} (h : AgreeOff names t t')
    (hitem : t.get? names ≠ some .directory) (hstep : t.step here name = .ok next) :
    t'.step here name = .ok next := by
  have hhere : here ≠ names := by
    rintro rfl
    exact hitem (get?_of_step hstep)
  rw [FileTree.step] at hstep ⊢
  rwa [h.get? here hhere]

theorem AgreeOff.foldlM_step {path : List String} (h : AgreeOff names t t')
    (hitem : t.get? names ≠ some .directory) (hwalk : path.foldlM t.step here = .ok next) :
    path.foldlM t'.step here = .ok next := by
  induction path generalizing here with
  | nil => exact hwalk
  | cons name path ih =>
    rw [List.foldlM_cons] at hwalk ⊢
    cases hstep : t.step here name with
    | error e => simp [hstep, bind, Except.bind] at hwalk
    | ok there =>
      rw [hstep] at hwalk
      rw [h.step hitem hstep]
      exact ih hwalk

/-- A path is walked name by name. -/
theorem foldlM_of_locate (h : t.locate p = .ok here) :
    p.names.foldlM t.step (t.start p) = .ok here := by
  rw [locate] at h
  split at h
  · cases h
  · split at h
    · cases h
    · split at h
      · cases h
      · exact h

/-- Everything above these names is a directory. -/
def Grounded (t : FileTree) (names : List String) : Prop :=
  ∀ above, above <:+ names → above ≠ names → t.get? above = some .directory

theorem Grounded.tail (h : t.Grounded here) : t.Grounded here.tail := by
  cases here with
  | nil => exact h
  | cons last names =>
    intro above habove hne
    refine h above (habove.trans (List.suffix_cons _ _)) fun heq => ?_
    have hlength := habove.length_le
    rw [heq, List.tail_cons, List.length_cons] at hlength
    omega

theorem Grounded.cons (h : t.Grounded here) (hdir : t.get? here = some .directory) (name : String) :
    t.Grounded (name :: here) := by
  intro above habove hne
  have habove := (List.suffix_cons_iff.1 habove).resolve_left hne
  by_cases heq : above = here
  · exact heq ▸ hdir
  · exact h above habove heq

theorem Grounded.step {name : String} (h : t.Grounded here) (hstep : t.step here name = .ok next) :
    t.Grounded next := by
  have hdir := get?_of_step hstep
  rw [FileTree.step, hdir] at hstep
  dsimp only at hstep
  split at hstep
  · cases hstep
  · obtain rfl := Except.ok.inj hstep
    split
    · exact h
    · split
      · exact h.tail
      · exact h.cons hdir name

theorem Grounded.foldlM {path : List String} (h : t.Grounded here)
    (hwalk : path.foldlM t.step here = .ok next) : t.Grounded next := by
  induction path generalizing here with
  | nil => exact Except.ok.inj hwalk ▸ h
  | cons name path ih =>
    rw [List.foldlM_cons] at hwalk
    cases hstep : t.step here name with
    | error e => simp [hstep, bind, Except.bind] at hwalk
    | ok there =>
      rw [hstep] at hwalk
      exact ih (h.step hstep) hwalk

/-- Above a place there is a directory. -/
theorem Grounded.get?_tail (h : t.Grounded here) : t.get? here.tail = some .directory := by
  cases here with
  | nil => rfl
  | cons last names => exact h names (List.suffix_cons _ _) (List.cons_ne_self _ _).symm

/-- A walk that starts where a path starts reaches grounded places only. -/
theorem grounded_of_walk {path : List String} (h : path.foldlM t.step (t.start p) = .ok here) :
    t.Grounded here := by
  refine Grounded.foldlM (fun above habove _ => ?_) h
  rw [FileTree.start] at habove
  split at habove
  · exact List.suffix_nil.1 habove ▸ rfl
  · exact get?_of_isSuffix habove

/-- A change to something that is no directory leaves every path where it leads. -/
theorem AgreeOff.locate (h : AgreeOff names t t') (hitem : t.get? names ≠ some .directory)
    (hplace : t.locate p = .ok here) : t'.locate p = .ok here := by
  rw [FileTree.locate] at hplace ⊢
  split at hplace
  · cases hplace
  · next hnull =>
    split at hplace
    · cases hplace
    · next hempty =>
      split at hplace
      · cases hplace
      · next hlong =>
        rw [if_neg hnull, if_neg hempty, if_neg hlong, h.start]
        exact h.foldlM_step hitem hplace

theorem locate_put (hitem : t.get? names ≠ some .directory) (h : t.locate p = .ok here) :
    (t.put names item).locate p = .ok here :=
  (agreeOff_put hitem item).locate hitem h

/-! ### What is found -/

/-- What is found is at the place that the path leads to, and a file is not found behind a slash. -/
theorem find_eq_ok_iff {found : FileItem} :
    t.find p = .ok found ↔ ∃ here, t.locate p = .ok here ∧ t.get? here = some found ∧
      (found.isFile = true → p.endsInSlash = false) := by
  rw [find]
  cases t.locate p with
  | error e => simp [bind, Except.bind]
  | ok here =>
    cases hitem : t.get? here with
    | none => simp [bind, Except.bind, hitem]
    | some item =>
      cases item with
      | directory => cases found <;> simp [bind, Except.bind, hitem, FileItem.isFile]
      | file content executable =>
        cases hslash : p.endsInSlash <;> cases found <;>
          simp [bind, Except.bind, hitem, FileItem.isFile]

theorem isDirectory_iff : t.isDirectory p = true ↔ t.find p = .ok .directory := by
  rw [isDirectory]
  split
  · next hfind => simp [hfind]
  · next hfind => exact iff_of_false Bool.false_ne_true hfind

theorem isFile_iff : t.isFile p = true ↔ ∃ item, t.find p = .ok item ∧ item.isFile = true := by
  rw [isFile]
  split
  · next found hfind => simp [hfind]
  · next e hfind => simp [hfind]

/-- What is put where a path leads is found there. -/
theorem find_put_self (hplace : t.locate p = .ok names)
    (hitem : t.get? names ≠ some .directory) (hslash : item.isFile = true → p.endsInSlash = false) :
    (t.put names item).find p = .ok item :=
  find_eq_ok_iff.2 ⟨_, locate_put hitem hplace,
    (get?_put (not_isSuffix_of_not_directory hitem)).trans (if_pos rfl), hslash⟩

/-- What is found elsewhere is still found after a change. -/
theorem AgreeOff.find {found : FileItem} (h : AgreeOff names t t')
    (hitem : t.get? names ≠ some .directory) (hplace : t.locate p ≠ .ok names)
    (hfind : t.find p = .ok found) : t'.find p = .ok found := by
  obtain ⟨here, hhere, hfound, hslash⟩ := find_eq_ok_iff.1 hfind
  have hne : here ≠ names := fun heq => hplace (heq ▸ hhere)
  exact find_eq_ok_iff.2 ⟨here, h.locate hitem hhere, (h.get? here hne).trans hfound, hslash⟩

theorem find_put {found : FileItem} (hitem : t.get? names ≠ some .directory)
    (hplace : t.locate p ≠ .ok names) (h : t.find p = .ok found) :
    (t.put names item).find p = .ok found :=
  (agreeOff_put hitem item).find hitem hplace h

/-- Directories stay where they are. -/
theorem isDirectory_put (hitem : t.get? names ≠ some .directory) (h : t.isDirectory p = true) :
    (t.put names item).isDirectory p = true := by
  rw [isDirectory_iff] at h ⊢
  refine find_put hitem (fun hplace => ?_) h
  obtain ⟨here, hhere, hfound, -⟩ := find_eq_ok_iff.1 h
  obtain rfl : here = names := Except.ok.inj (hhere.symm.trans hplace)
  exact hitem hfound

/-- Files stay files. -/
theorem isFile_put (hitem : t.get? names ≠ some .directory)
    (hnew : t.get? names = none ∨ item.isFile = true) (h : t.isFile p = true) :
    (t.put names item).isFile p = true := by
  obtain ⟨found, hfind, hfile⟩ := isFile_iff.1 h
  obtain ⟨here, hhere, hfound, hslash⟩ := find_eq_ok_iff.1 hfind
  rw [isFile_iff]
  by_cases hplace : here = names
  · subst hplace
    have hitem' : item.isFile = true := hnew.resolve_left fun hnone => by
      rw [hnone] at hfound
      cases hfound
    exact ⟨item, find_put_self hhere hitem fun _ => hslash hfile, hitem'⟩
  · exact ⟨found, find_put hitem (fun h => hplace (Except.ok.inj (hhere.symm.trans h))) hfind,
      hfile⟩

/-! ### Writing files -/

/-- What writing a file does: there is no directory where the path leads, and the file is put
there. -/
theorem write_cases {content : ByteArray} (h : t.write p content = .ok t') :
    ∃ names executable, t.locate p = .ok names ∧ p.endsInSlash = false ∧
      t.get? names ≠ some .directory ∧ t' = t.put names (.file content executable) := by
  rw [write] at h
  cases hplace : t.locate p with
  | error e => simp [hplace, bind, Except.bind] at h
  | ok here =>
    simp only [hplace, bind, Except.bind] at h
    split at h
    · cases h
    · next hslash =>
      have hslash : p.endsInSlash = false := by simpa using hslash
      split at h
      · cases h
      · next old executable hitem =>
        cases h
        exact ⟨here, executable, rfl, hslash, by simp [hitem], rfl⟩
      · next hitem =>
        cases h
        exact ⟨here, false, rfl, hslash, by simp [hitem], rfl⟩

/-- A file that was written is found with what was written. -/
theorem find_write {content : ByteArray} (h : t.write p content = .ok t') :
    ∃ executable, t'.find p = .ok (.file content executable) := by
  obtain ⟨names, executable, hplace, hslash, hitem, rfl⟩ := write_cases h
  exact ⟨executable, find_put_self hplace hitem fun _ => hslash⟩

theorem isFile_write {content : ByteArray} (h : t.write p content = .ok t') :
    t'.isFile p = true := by
  obtain ⟨executable, hfind⟩ := find_write h
  exact isFile_iff.2 ⟨_, hfind, rfl⟩

/-- A file that was written holds what was written. -/
theorem readBytes_write {content : ByteArray} (h : t.write p content = .ok t') :
    t'.readBytes p = .ok content := by
  obtain ⟨executable, hfind⟩ := find_write h
  rw [readBytes, hfind]
  rfl

/-- A text that was written is read back. -/
theorem readText_write {text : String} (h : t.write p text.toUTF8 = .ok t') :
    t'.readText p = .ok text := by
  have hdecode : String.fromUTF8? text.toByteArray = some text := by
    rw [String.fromUTF8?, dif_pos text.isValidUTF8]
    rfl
  rw [readText, readBytes_write h]
  simp [bind, Except.bind, hdecode]

/-- A file that is there can be written. -/
theorem exists_write_of_isFile (h : t.isFile p = true) (content : ByteArray) :
    ∃ t', t.write p content = .ok t' := by
  obtain ⟨found, hfind, hfile⟩ := isFile_iff.1 h
  obtain ⟨here, hplace, hitem, hslash⟩ := find_eq_ok_iff.1 hfind
  cases found with
  | directory => cases hfile
  | file old executable =>
    refine ⟨t.put here (.file content executable), ?_⟩
    rw [write, hplace]
    simp [bind, Except.bind, hslash hfile, hitem]

/-! ### Making directories -/

/-- What making a directory does: there is nothing where the path leads, and the directory is put
there. -/
theorem makeDirectory_cases (h : t.makeDirectory p = .ok t') :
    ∃ names, t.locate p = .ok names ∧ t.get? names = none ∧
      t' = t.put names .directory := by
  rw [makeDirectory] at h
  cases hplace : t.locate p with
  | error e => simp [hplace, bind, Except.bind] at h
  | ok here =>
    simp only [hplace, bind, Except.bind] at h
    split at h
    · cases h
    · next hitem =>
      cases h
      exact ⟨here, rfl, hitem, rfl⟩

/-- Where nothing is, there is no directory. -/
theorem not_directory_of_eq_none (h : t.get? names = none) : t.get? names ≠ some .directory := by
  simp [h]

/-- A directory that was made is there. -/
theorem isDirectory_makeDirectory (h : t.makeDirectory p = .ok t') : t'.isDirectory p = true := by
  obtain ⟨names, hplace, hnone, rfl⟩ := makeDirectory_cases h
  exact isDirectory_iff.2 (find_put_self hplace (not_directory_of_eq_none hnone) nofun)

/-- A directory that is there cannot be made. -/
theorem makeDirectory_of_isDirectory (h : t.isDirectory p = true) :
    t.makeDirectory p = .error .alreadyExists := by
  obtain ⟨here, hplace, hitem, -⟩ := find_eq_ok_iff.1 (isDirectory_iff.1 h)
  rw [makeDirectory, hplace]
  simp [bind, Except.bind, hitem]

/-! ### Texts elsewhere -/

/-- A text is read where a file is found. -/
theorem exists_find_of_readText {text : String} (h : t.readText p = .ok text) :
    ∃ found, t.find p = .ok found := by
  cases hfind : t.find p with
  | ok found => exact ⟨found, rfl⟩
  | error e =>
    rw [readText, readBytes, hfind] at h
    cases h

/-- What is read elsewhere is still read after a change. -/
theorem AgreeOff.readText {text : String} (h : AgreeOff names t t')
    (hitem : t.get? names ≠ some .directory) (hplace : t.locate p ≠ .ok names)
    (hread : t.readText p = .ok text) : t'.readText p = .ok text := by
  obtain ⟨found, hfound⟩ := exists_find_of_readText hread
  rw [FileTree.readText, readBytes, hfound] at hread
  rw [FileTree.readText, readBytes, h.find hitem hplace hfound]
  exact hread

theorem readText_put {text : String} (hitem : t.get? names ≠ some .directory)
    (hplace : t.locate p ≠ .ok names) (h : t.readText p = .ok text) :
    (t.put names item).readText p = .ok text :=
  (agreeOff_put hitem item).readText hitem hplace h

/-- Making a directory leaves every text readable. -/
theorem readText_makeDirectory {q : Path} {text : String} (h : t.makeDirectory q = .ok t')
    (hread : t.readText p = .ok text) : t'.readText p = .ok text := by
  obtain ⟨names, -, hnone, rfl⟩ := makeDirectory_cases h
  refine readText_put (not_directory_of_eq_none hnone) (fun hplace => ?_) hread
  obtain ⟨found, hfound⟩ := exists_find_of_readText hread
  obtain ⟨here, hhere, hitem, -⟩ := find_eq_ok_iff.1 hfound
  obtain rfl : here = names := Except.ok.inj (hhere.symm.trans hplace)
  rw [hnone] at hitem
  cases hitem

/-! ### Removing files -/

theorem agreeOff_erase (hitem : t.get? names ≠ some .directory) :
    AgreeOff names t (t.erase names) where
  home := home_erase t names
  get? _ hother := (get?_erase (not_isSuffix_of_not_directory hitem)).trans (if_neg hother)

/-- Under erased names there is nothing. -/
theorem get?_erase_self (hitem : t.get? names ≠ some .directory) :
    (t.erase names).get? names = none :=
  (get?_erase (not_isSuffix_of_not_directory hitem)).trans (if_pos rfl)

/-- What removing a file does: there is a file where the path leads, and afterwards there is
nothing. -/
theorem remove_cases (h : t.remove p = .ok t') :
    ∃ names item, t.locate p = .ok names ∧ t.get? names = some item ∧
      item.isFile = true ∧ t' = t.erase names := by
  rw [remove] at h
  cases hfind : t.find p with
  | error e => simp [hfind, bind, Except.bind] at h
  | ok item =>
    obtain ⟨here, hplace, hitem, -⟩ := find_eq_ok_iff.1 hfind
    rw [hfind, hplace] at h
    cases item with
    | directory => cases h
    | file content executable =>
      cases h
      exact ⟨here, _, hplace, hitem, rfl, rfl⟩

/-- Removing a file leaves everything else as it is. -/
theorem agreeOff_of_remove (h : t.remove p = .ok t') :
    ∃ names, t.locate p = .ok names ∧ t.get? names ≠ some .directory ∧
      AgreeOff names t t' ∧ t'.get? names = none := by
  obtain ⟨names, item, hplace, hitem, hfile, rfl⟩ := remove_cases h
  have hdir : t.get? names ≠ some .directory := by
    rintro hdir
    obtain rfl := Option.some.inj (hitem.symm.trans hdir)
    cases hfile
  exact ⟨names, hplace, hdir, agreeOff_erase hdir, get?_erase_self hdir⟩

/-- A file that is there can be removed. -/
theorem exists_remove_of_isFile (h : t.isFile p = true) : ∃ t', t.remove p = .ok t' := by
  obtain ⟨found, hfind, hfile⟩ := isFile_iff.1 h
  obtain ⟨here, hplace, hitem, -⟩ := find_eq_ok_iff.1 hfind
  cases found with
  | directory => cases hfile
  | file content executable =>
    refine ⟨t.erase here, ?_⟩
    rw [remove, hfind, hplace]
    rfl

/-- A file that was removed is gone. -/
theorem not_isFile_remove (h : t.remove p = .ok t') : t'.isFile p = false := by
  obtain ⟨names, hplace, hdir, hoff, hnone⟩ := agreeOff_of_remove h
  rw [Bool.eq_false_iff]
  intro hfile
  obtain ⟨found, hfind, -⟩ := isFile_iff.1 hfile
  obtain ⟨here, hhere, hitem, -⟩ := find_eq_ok_iff.1 hfind
  obtain rfl : here = names := Except.ok.inj (hhere.symm.trans (hoff.locate hdir hplace))
  rw [hnone] at hitem
  cases hitem

/-- Removing a file makes no other file. -/
theorem isFile_of_isFile_remove {q : Path} (h : t.remove p = .ok t') (hfile : t'.isFile q = true) :
    t.isFile q = true := by
  obtain ⟨names, -, -, hoff, hnone⟩ := agreeOff_of_remove h
  obtain ⟨found, hfind, hfound⟩ := isFile_iff.1 hfile
  refine isFile_iff.2 ⟨found, hoff.symm.find (not_directory_of_eq_none hnone) ?_ hfind, hfound⟩
  intro hplace
  obtain ⟨here, hhere, hitem, -⟩ := find_eq_ok_iff.1 hfind
  obtain rfl : here = names := Except.ok.inj (hhere.symm.trans hplace)
  rw [hnone] at hitem
  cases hitem

end FileTree

/-- Two paths are **apart** if they lead to the same place in no tree. -/
def Path.Apart (p q : Path) : Prop :=
  ∀ (t : FileTree) (names : List String), t.locate p = .ok names →
    t.locate q ≠ .ok names

theorem Path.Apart.symm {q : Path} (h : p.Apart q) : q.Apart p :=
  fun t names hq hp => h t names hp hq

/-- Writing a file leaves the texts of files apart from it readable. -/
theorem FileTree.readText_write_of_apart {q : Path} {content : ByteArray} {text : String}
    (h : t.write q content = .ok t') (hapart : p.Apart q) (hread : t.readText p = .ok text) :
    t'.readText p = .ok text := by
  obtain ⟨names, executable, hplace, -, hitem, rfl⟩ := write_cases h
  exact readText_put hitem (fun hp => hapart t names hp hplace) hread

/-- Removing a file leaves the texts of files apart from it readable. -/
theorem FileTree.readText_remove_of_apart {q : Path} {text : String} (h : t.remove q = .ok t')
    (hapart : p.Apart q) (hread : t.readText p = .ok text) : t'.readText p = .ok text := by
  obtain ⟨names, hplace, hdir, hoff, -⟩ := agreeOff_of_remove h
  exact hoff.readText hdir (fun hp => hapart t names hp hplace) hread

/-- Removing a file leaves the files apart from it, and makes no other ones. -/
theorem FileTree.isFile_remove_of_apart {q : Path} (h : t.remove q = .ok t') (hapart : p.Apart q) :
    t'.isFile p = t.isFile p := by
  rw [Bool.eq_iff_iff]
  constructor
  · exact isFile_of_isFile_remove h
  · intro hfile
    obtain ⟨names, hplace, hdir, hoff, -⟩ := agreeOff_of_remove h
    obtain ⟨found, hfind, hfound⟩ := isFile_iff.1 hfile
    have hkept := hoff.find hdir (fun hp => hapart t names hp hplace) hfind
    exact isFile_iff.2 ⟨found, hkept, hfound⟩

end PlotDeck

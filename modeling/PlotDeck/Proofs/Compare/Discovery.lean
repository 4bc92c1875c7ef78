import Mathlib.Data.List.Forall2
import PlotDeck.Compare.Comparison
import PlotDeck.Proofs.Compare.TotalOrder
import PlotDeck.Proofs.Host.World
import PlotDeck.Proofs.Path.Ending

/-!
# Discovered plots

The plots that are found in directories are the files with the extension that all directories have
in common (`Compare.exists_attempt_discover`). They stand in strict natural order, so the list is
told by its members (`Compare.eq_of_mem_iff_of_lt`): it depends on the set of directories and on the
extension without its leading dots, and on nothing else. A directory that cannot be read is the
answer, and the first one of them is (`Compare.attempt_discover_of_unreadable`).
-/

namespace PlotDeck.Compare

open World

variable {w : World} {dirs dirs' : List Path} {dir : Path} {names names' : List String}
  {lists : List (List String)} {ext name : String} {entries : List DirectoryEntry}

/-! ### Names and extensions -/

/-- What can be the name of a file: it holds no slash, and it does not go up a directory. -/
structure IsFileName (name : String) : Prop where
  /-- There is no slash. -/
  noSlash : '/' ∉ name.toList
  /-- It is not the name of the directory above. -/
  notUp : name ≠ ".."

/-- The extension is the part of the name behind its last dot, and that dot does not start the
name. -/
def EndsInExtension (name ext : String) : Prop :=
  ∃ stem, stem ≠ [] ∧ '.' ∉ ext.toList ∧ name.toList = stem ++ '.' :: ext.toList

theorem extension?_eq_some_iff (h : IsFileName name) :
    Path.extension? ⟨name⟩ = some ext ↔ EndsInExtension name ext := by
  by_cases hidle : Path.isIdle name.toList = true
  · -- neither the empty name nor a single dot has an extension
    rcases Path.isIdle_iff.1 hidle with hname | hname
    · obtain rfl : name = "" := String.toList_inj.1 hname
      have hnone : Path.extension? ⟨""⟩ = none := by decide
      exact iff_of_false (by simp [hnone]) fun ⟨stem, _, _, hsplit⟩ => by simp at hsplit
    · obtain rfl : name = "." := String.toList_inj.1 hname
      have hnone : Path.extension? ⟨"."⟩ = none := by decide
      refine iff_of_false (by simp [hnone]) fun ⟨stem, hstem, _, hsplit⟩ => ?_
      obtain ⟨c, stem, rfl⟩ := List.exists_cons_of_ne_nil hstem
      simp at hsplit
  · have hends : Path.EndsIn ⟨name⟩ [] name.toList [] :=
      ⟨by simp, .inl rfl, h.noSlash, by simpa using hidle, .nil⟩
    have hup : name.toList ≠ ['.', '.'] := fun hname =>
      h.notUp (String.toList_inj.1 hname)
    rw [hends.extension? hup, Option.map_eq_some_iff]
    constructor
    · rintro ⟨e, he, rfl⟩
      rcases Path.splitExtension_cases name.toList with
        hnone | ⟨stem, e', hname, hstem, hdot, hsome⟩
      · rw [hnone] at he
        cases he
      · rw [hsome] at he
        obtain rfl := Option.some.inj he
        exact ⟨stem, hstem, by rwa [String.toList_ofList], by rwa [String.toList_ofList]⟩
    · rintro ⟨stem, hstem, hdot, hname⟩
      exact ⟨ext.toList, by rw [hname, Path.splitExtension_append hstem hdot],
        String.ofList_toList⟩

/-- Dots before an extension do not count. -/
theorem bareExtension_append_dots (n : Nat) (ext : String) :
    bareExtension (String.ofList (List.replicate n '.') ++ ext) = bareExtension ext := by
  have hdots : ∀ c ∈ List.replicate n '.', (c == '.') = true := fun c hc =>
    beq_iff_eq.2 (List.eq_of_mem_replicate hc)
  rw [bareExtension, String.toList_append, String.toList_ofList,
    List.dropWhile_append_of_pos hdots, bareExtension]

/-! ### Reading the directories -/

/-- The directory lists a file of this name. -/
def HasFile (w : World) (dir : Path) (name : String) : Prop :=
  ∃ entries, w.tree.entries dir = .ok entries ∧ ⟨name, true⟩ ∈ entries

/-- The directory can be read, and what it lists has names of files. -/
def IsListed (w : World) (dir : Path) : Prop :=
  ∃ entries, w.tree.entries dir = .ok entries ∧ ∀ entry ∈ entries, IsFileName entry.name

theorem attempt_plotsIn (w : World) (ext : String) (dir : Path) :
    w.attempt (plotsIn ext dir) = (((w.tree.entries dir).mapError (FileError.read dir)).map
      fun entries => (entries.filter (hasExtension ext)).map DirectoryEntry.name, w) := by
  have hentries : w.attempt (ExceptT.mk do
      return (← Host.entries dir).mapError (FileError.read dir) : ExceptT FileError _ _)
      = ((w.tree.entries dir).mapError (FileError.read dir), w) := rfl
  rw [plotsIn, attempt_bind, hentries]
  cases w.tree.entries dir <;> rfl

/-- Of a directory, the files with the extension are taken. -/
theorem exists_attempt_plotsIn (ext : String) (h : IsListed w dir) :
    ∃ names, w.attempt (plotsIn ext dir) = (.ok names, w) ∧
      ∀ name, name ∈ names ↔ EndsInExtension name ext ∧ HasFile w dir name := by
  obtain ⟨entries, hentries, hnames⟩ := h
  refine ⟨(entries.filter (hasExtension ext)).map (·.name), ?_, fun name => ?_⟩
  · rw [attempt_plotsIn, hentries]
    rfl
  · rw [List.mem_map]
    constructor
    · rintro ⟨entry, hmem, rfl⟩
      obtain ⟨hmem, hhas⟩ := List.mem_filter.1 hmem
      rw [hasExtension, Bool.and_eq_true, beq_iff_eq] at hhas
      obtain ⟨hfile, hext⟩ := hhas
      obtain ⟨name, isFile⟩ := entry
      obtain rfl : isFile = true := hfile
      exact ⟨(extension?_eq_some_iff (hnames _ hmem)).1 hext, entries, hentries, hmem⟩
    · rintro ⟨hext, entries', hentries', hmem⟩
      obtain rfl := Except.ok.inj (hentries.symm.trans hentries')
      refine ⟨⟨name, true⟩, List.mem_filter.2 ⟨hmem, ?_⟩, rfl⟩
      rw [hasExtension, (extension?_eq_some_iff (hnames _ hmem)).2 hext]
      simp

/-- Directories that can be read are read one after the other. -/
theorem exists_attempt_mapM_plotsIn (ext : String) (h : ∀ dir ∈ dirs, IsListed w dir) :
    ∃ lists, w.attempt (dirs.mapM (plotsIn ext)) = (.ok lists, w) ∧
      List.Forall₂ (fun dir names => ∀ name, name ∈ names ↔
        EndsInExtension name ext ∧ HasFile w dir name) dirs lists := by
  induction dirs with
  | nil => exact ⟨[], rfl, .nil⟩
  | cons dir dirs ih =>
    obtain ⟨hdir, hdirs⟩ := List.forall_mem_cons.1 h
    obtain ⟨names, hnames, hmem⟩ := exists_attempt_plotsIn ext hdir
    obtain ⟨lists, hlists, hrest⟩ := ih hdirs
    refine ⟨names :: lists, ?_, .cons hmem hrest⟩
    rw [List.mapM_cons, attempt_bind, hnames]
    simp only
    rw [attempt_bind, hlists]
    rfl

/-- The first directory that cannot be read ends the reading. -/
theorem attempt_mapM_plotsIn_of_unreadable {before after : List Path} {e : OsError}
    (hbefore : ∀ d ∈ before, ∃ entries, w.tree.entries d = .ok entries)
    (hdir : w.tree.entries dir = .error e) :
    w.attempt ((before ++ dir :: after).mapM (plotsIn ext)) = (.error (.read dir e), w) := by
  induction before with
  | nil =>
    rw [List.nil_append, List.mapM_cons, attempt_bind, attempt_plotsIn, hdir]
    rfl
  | cons d before ih =>
    obtain ⟨⟨entries, hentries⟩, hbefore⟩ := List.forall_mem_cons.1 hbefore
    rw [List.cons_append, List.mapM_cons, attempt_bind, attempt_plotsIn, hentries]
    simp only [Except.mapError, Except.map]
    rw [attempt_bind, ih hbefore]

/-! ### What lists have in common -/

theorem mem_common (h : lists ≠ []) : name ∈ common lists ↔ ∀ names ∈ lists, name ∈ names := by
  cases lists with
  | nil => exact absurd rfl h
  | cons names lists =>
    rw [common, List.mem_filter, List.mem_eraseDups, List.all_eq_true, List.forall_mem_cons]
    simp only [List.contains_iff_mem]

theorem nodup_eraseDups (names : List String) : names.eraseDups.Nodup := by
  cases names with
  | nil => exact List.nodup_nil
  | cons name names =>
    rw [List.eraseDups_cons, List.nodup_cons, List.mem_eraseDups]
    exact ⟨by simp, nodup_eraseDups _⟩
termination_by names.length
decreasing_by
  rw [List.length_cons]
  exact Nat.lt_succ_of_le (List.length_filter_le _ _)

theorem nodup_common (lists : List (List String)) : (common lists).Nodup := by
  cases lists with
  | nil => exact List.nodup_nil
  | cons names lists => exact (nodup_eraseDups names).filter _

/-- Different names are sorted strictly. -/
theorem pairwise_lt_sortNatural (h : names.Nodup) :
    (sortNatural names).Pairwise fun a b => natural a b = .lt := by
  have hnodup : (sortNatural names).Nodup := (sortNatural_perm names).nodup_iff.2 h
  refine (pairwise_sortNatural names).imp₂ (fun a b hle hne => ?_) hnodup
  cases hcompare : natural a b with
  | lt => rfl
  | eq => exact absurd (Std.LawfulEqCmp.eq_of_compare hcompare) hne
  | gt => rw [hcompare] at hle; cases hle

/-- Names in strict order are told by which they are. -/
theorem eq_of_mem_iff_of_lt (h : names.Pairwise fun a b => natural a b = .lt)
    (h' : names'.Pairwise fun a b => natural a b = .lt)
    (hmem : ∀ name, name ∈ names ↔ name ∈ names') :
    names = names' := by
  have hne : ∀ a b, natural a b = .lt → a ≠ b := by
    rintro a _ hlt rfl
    have hself : natural a a = .eq := Std.ReflCmp.compare_self
    rw [hself] at hlt
    cases hlt
  have hperm : names.Perm names' :=
    (List.perm_ext_iff_of_nodup (h.imp fun hlt => hne _ _ hlt) (h'.imp fun hlt => hne _ _ hlt)).2
    hmem
  refine hperm.eq_of_pairwise (fun a b _ _ hab hba => ?_) h h'
  exact absurd rfl (hne a a (Std.TransCmp.lt_trans hab hba))

/-! ### Discovering -/

/-- In directories that can be read, the files with the extension that all of them have are
found. -/
theorem exists_attempt_discover (ext : String) (hdirs : dirs ≠ [])
    (h : ∀ dir ∈ dirs, IsListed w dir) :
    ∃ names, w.attempt (discover dirs ext) = (.ok names, w) ∧
      names.Pairwise (fun a b => natural a b = .lt) ∧
      ∀ name, name ∈ names ↔
        EndsInExtension name (bareExtension ext) ∧ ∀ dir ∈ dirs, HasFile w dir name := by
  obtain ⟨lists, hlists, hmem⟩ := exists_attempt_mapM_plotsIn (bareExtension ext) h
  refine ⟨sortNatural (common lists), ?_, pairwise_lt_sortNatural (nodup_common lists),
    fun name => ?_⟩
  · rw [discover, attempt_bind, hlists]
    rfl
  · have hne : lists ≠ [] := by
      rintro rfl
      exact hdirs (List.forall₂_nil_right_iff.1 hmem)
    have hall : (∀ names ∈ lists, name ∈ names) ↔
        ∀ dir ∈ dirs, EndsInExtension name (bareExtension ext) ∧ HasFile w dir name := by
      clear hlists hdirs h hne
      induction hmem with
      | nil => simp
      | cons hfirst _ ih => rw [List.forall_mem_cons, List.forall_mem_cons, hfirst, ih]
    rw [(sortNatural_perm _).mem_iff, mem_common hne, hall]
    obtain ⟨dir, hdir⟩ := List.exists_mem_of_ne_nil dirs hdirs
    exact ⟨fun hname => ⟨(hname dir hdir).1, fun d hd => (hname d hd).2⟩,
      fun hname d hd => ⟨hname.1, hname.2 d hd⟩⟩

/-- The first directory that cannot be read is the answer. -/
theorem attempt_discover_of_unreadable {before after : List Path} {e : OsError}
    (hbefore : ∀ d ∈ before, ∃ entries, w.tree.entries d = .ok entries)
    (hdir : w.tree.entries dir = .error e) (ext : String) :
    w.attempt (discover (before ++ dir :: after) ext) = (.error (.read dir e), w) := by
  rw [discover, attempt_bind, attempt_mapM_plotsIn_of_unreadable hbefore hdir]

/-- Two directories beside the home in which the same names stand for files and for directories,
with dots in all places. -/
def dottedNames : World where
  tree := {
    home := ["work"]
    items := [(["work"], .directory), (["a"], .directory), (["b"], .directory),
      (["p10.pdf", "a"], .file ⟨#[]⟩ false), (["p2.v1.pdf", "a"], .file ⟨#[]⟩ false),
      ([".pdf", "a"], .file ⟨#[]⟩ false), (["q.pdf", "a"], .directory),
      ([".pdf", "b"], .file ⟨#[]⟩ false), (["q.pdf", "b"], .file ⟨#[]⟩ false),
      (["p10.pdf", "b"], .file ⟨#[]⟩ false), (["p2.v1.pdf", "b"], .file ⟨#[]⟩ false),
      (["p10.pdf.", "b"], .file ⟨#[]⟩ false)]
    distinct := by decide
    settled := fun names h hne => by rw [FileTree.eq_singleton_of_isSuffix h hne]; rfl }

end PlotDeck.Compare

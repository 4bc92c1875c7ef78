import PlotDeck.Build.Passes
import PlotDeck.Proofs.Host.World

/-!
# Removing files

Whatever paths are handed to the removal of files, nothing else goes: a tree **loses** files at some
paths if it stays as it was but for files to which these paths lead (`FileTree.LosesAt`). The paths
that are reported as removed are among those that were handed over, and the tree loses files at
these (`removeFiles_eq`). So what a file apart from all of them reads as is kept
(`preserves_removeFiles`).
-/

namespace PlotDeck

open World

namespace FileTree

variable {t t₁ t₂ : FileTree} {p : Path} {gone : List Path}

/-- The second tree is the first one without some files, to each of which one of the paths leads. -/
structure LosesAt (t t' : FileTree) (gone : List Path) : Prop where
  /-- Paths start at the same directory. -/
  home : t'.home = t.home
  /-- Nothing else is different. -/
  get? : ∀ names, t'.get? names = t.get? names ∨
    t'.get? names = none ∧ (∃ item ∈ t.get? names, item.isFile = true) ∧
      ∃ q ∈ gone, t.locate q = .ok names

theorem losesAt_nil (t : FileTree) : t.LosesAt t [] := ⟨rfl, fun _ => .inl rfl⟩

/-- A file is removed, and then others are lost. -/
theorem LosesAt.cons (hremove : t.remove p = .ok t₁) (h : t₁.LosesAt t₂ gone) :
    t.LosesAt t₂ (p :: gone) := by
  obtain ⟨names, item, hplace, hitem, hfile, rfl⟩ := remove_cases hremove
  have hdir : t.get? names ≠ some .directory := by
    rintro hdir
    obtain rfl := Option.some.inj (hitem.symm.trans hdir)
    cases hfile
  have hoff : AgreeOff names t (t.erase names) := agreeOff_erase hdir
  have hnone : (t.erase names).get? names = none := get?_erase_self hdir
  refine ⟨h.home.trans hoff.home, fun other => ?_⟩
  by_cases hother : other = names
  · subst hother
    have hlost : t₂.get? other = none := (h.get? other).elim (·.trans hnone) And.left
    exact .inr ⟨hlost, ⟨item, hitem, hfile⟩, p, List.mem_cons_self, hplace⟩
  · obtain hsame | ⟨hlost, ⟨found, hfound, hisFile⟩, q, hq, hqplace⟩ := h.get? other
    · exact .inl (hsame.trans (hoff.get? other hother))
    · -- the path led there before the first file was removed, too
      have hback : t.locate q = .ok other :=
        hoff.symm.locate (not_directory_of_eq_none hnone) hqplace
      refine .inr ⟨hlost, ⟨found, ?_, hisFile⟩, q, List.mem_cons_of_mem _ hq, hback⟩
      rwa [← hoff.get? other hother]

end FileTree

variable {paths : List Path} {w : World}

/-- A path that leads to no file is passed over, and a file is removed if that can be done. -/
theorem removeFile_cases (p : Path) (w : World) :
    (removeFiles.removeFile p : StateM World Bool) w = (false, w) ∨
      ∃ tree, w.tree.remove p = .ok tree ∧
        (removeFiles.removeFile p : StateM World Bool) w = (true, { w with tree }) := by
  have hfile : (Host.isFile p : StateM World Bool) w = (w.tree.isFile p, w) := rfl
  rw [removeFiles.removeFile, bind_of_eq hfile]
  split
  · have hedit : (Host.removeFile p : StateM World _) w = w.edit (w.tree.remove p) := rfl
    cases hremove : w.tree.remove p with
    | error e =>
      rw [hremove] at hedit
      rw [bind_of_eq hedit]
      exact .inl rfl
    | ok tree =>
      rw [hremove] at hedit
      rw [bind_of_eq hedit]
      exact .inr ⟨tree, rfl, rfl⟩
  · exact .inl rfl

/-- What removing files does: some of them are removed, and the tree loses files at these. -/
theorem removeFiles_eq (paths : List Path) (w : World) :
    ∃ removed tree, (removeFiles paths : StateM World _) w = (removed, { w with tree }) ∧
      removed.Sublist paths ∧ w.tree.LosesAt tree removed := by
  induction paths generalizing w with
  | nil => exact ⟨[], w.tree, rfl, .slnil, w.tree.losesAt_nil⟩
  | cons p rest ih =>
    have hrun : ∀ gone w₁ more w₂, (removeFiles.removeFile p : StateM World Bool) w = (gone, w₁) →
        (removeFiles rest : StateM World _) w₁ = (more, w₂) →
        (removeFiles (p :: rest) : StateM World _) w = (if gone then p :: more else more, w₂) := by
      intro gone w₁ more w₂ hfirst hrest
      rw [removeFiles, bind_of_eq hfirst, bind_of_eq hrest]
      rfl
    obtain hstay | ⟨t₁, hremove, hgone⟩ := removeFile_cases p w
    · obtain ⟨removed, tree, hrest, hsub, hloses⟩ := ih w
      exact ⟨removed, tree, hrun _ _ _ _ hstay hrest, hsub.cons p, hloses⟩
    · obtain ⟨removed, tree, hrest, hsub, hloses⟩ := ih { w with tree := t₁ }
      exact ⟨p :: removed, tree, hrun _ _ _ _ hgone hrest, hsub.cons_cons p, hloses.cons hremove⟩

/-- Removing files keeps what a file apart from all of them reads as. -/
theorem preserves_removeFiles {f : Path} {text : String} (h : ∀ q ∈ paths, f.Apart q) :
    Preserves (f.Reads text) (removeFiles paths) := by
  induction paths with
  | nil => exact preserves_pure _
  | cons p rest ih =>
    obtain ⟨hp, hrest⟩ := List.forall_mem_cons.1 h
    have hfirst : Preserves (f.Reads text) (removeFiles.removeFile p) := by
      intro w hread
      obtain hstay | ⟨tree, hremove, hgone⟩ := removeFile_cases p w
      · rwa [hstay]
      · rw [hgone]
        exact FileTree.readText_remove_of_apart hremove hp hread
    rw [removeFiles]
    exact hfirst.bind fun _ => (ih hrest).bind fun _ => preserves_pure _

end PlotDeck

import PlotDeck.Host.Files
import PlotDeck.Host.World
import PlotDeck.Proofs.Host.FileTree

/-!
# Actions on worlds

What an action can change and how it can fail is told by two predicates that are kept when actions
follow each other. An action **leaves** what is seen of a world as it is if no run of it changes
that (`World.Leaves`); its errors are **among** those of a kind if every run that fails does so with
one of them (`World.ErrorsAmong`). Reading leaves everything as it is. Writing a text fails with an
error of writing only, and after it the text is read back (`Path.errorsAmong_writeText`,
`Path.readText_of_writeText`). A property that is kept by the writing of files and directories is
**preserved** (`World.Preserves`): what files elsewhere read as, and which files can be written
again (`Path.preserves_writeText`, `Path.preserves_written_writeText`).
-/

namespace PlotDeck

/-- Outcomes are compared by their values or errors. -/
instance decidableEqOutcome {ε α : Type} [DecidableEq ε] [DecidableEq α] : DecidableEq (Except ε α)
  | .ok a, .ok b => decidable_of_iff (a = b) (Except.ok.injEq a b).symm.to_iff
  | .error a, .error b => decidable_of_iff (a = b) (Except.error.injEq a b).symm.to_iff
  | .ok _, .error _ => isFalse nofun
  | .error _, .ok _ => isFalse nofun

/-- An action on a state is followed by another one. -/
theorem bind_of_eq {α β σ : Type} {s s' : σ} {x : StateM σ α} {f : α → StateM σ β} {a : α}
    (h : x s = (a, s')) : (x >>= f) s = f a s' := by
  change f (x s).1 (x s).2 = _
  rw [h]

namespace World

variable {α β ε δ ν : Type} {w w' : World} {P : ε → Prop}

/-! ### One action after another -/

/-- Runs an action that can fail: what comes of it, and the world after it. -/
def attempt (w : World) (x : ExceptT ε (StateM World) α) : Except ε α × World := x.run w

theorem exists_attempt_eq {x : ExceptT ε (StateM World) α} {r : Except ε α}
    (h : (w.attempt x).1 = r) :
    ∃ w', w.attempt x = (r, w') :=
  ⟨_, Prod.ext h rfl⟩

/-- An action is followed by another one if it does not fail. -/
theorem attempt_bind (x : ExceptT ε (StateM World) α) (f : α → ExceptT ε (StateM World) β) :
    w.attempt (x >>= f) = match w.attempt x with
      | (.ok a, w₁) => w₁.attempt (f a)
      | (.error e, w₁) => (.error e, w₁) := by
  rw [attempt, ExceptT.run_bind]
  change StateT.run _ w = _
  rw [StateT.run_bind]
  change Id.run (w.attempt x >>= _) = _
  rcases w.attempt x with ⟨_ | _, w₁⟩ <;> rfl

/-- An action that cannot fail. -/
theorem attempt_lift (x : StateM World α) :
    w.attempt (ExceptT.lift x : ExceptT ε _ _) = (.ok (x w).1, (x w).2) :=
  rfl

/-- A sequence of two actions fails with the first or with the second. -/
theorem attempt_bind_eq_error_iff {x : ExceptT ε (StateM World) α}
    {f : α → ExceptT ε (StateM World) β} {e : ε} :
    w.attempt (x >>= f) = (.error e, w') ↔
      w.attempt x = (.error e, w') ∨
        ∃ a w₁, w.attempt x = (.ok a, w₁) ∧ w₁.attempt (f a) = (.error e, w') := by
  rw [attempt_bind]
  rcases w.attempt x with ⟨_ | a, w₁⟩
  · simp
  · simp [and_assoc]

theorem attempt_bind_eq_ok_iff {x : ExceptT ε (StateM World) α}
    {f : α → ExceptT ε (StateM World) β} {b : β} :
    w.attempt (x >>= f) = (.ok b, w') ↔
      ∃ a w₁, w.attempt x = (.ok a, w₁) ∧ w₁.attempt (f a) = (.ok b, w') := by
  rw [attempt_bind]
  rcases w.attempt x with ⟨_ | a, w₁⟩
  · simp
  · simp [and_assoc]

theorem mapError_eq_error_iff {r : Except ε α} {f : ε → δ} {e : δ} :
    r.mapError f = .error e ↔ ∃ c, r = .error c ∧ e = f c := by
  cases r with
  | ok a => exact iff_of_false nofun fun ⟨_, h, _⟩ => nomatch h
  | error c =>
    constructor
    · intro h
      exact ⟨c, rfl, (Except.error.inj h).symm⟩
    · rintro ⟨_, h, rfl⟩
      cases h
      rfl

theorem mapError_eq_ok_iff {r : Except ε α} {f : ε → δ} {a : α} :
    r.mapError f = .ok a ↔ r = .ok a := by
  cases r with
  | ok b => constructor <;> (intro h; cases h; rfl)
  | error c => exact iff_of_false nofun nofun

/-- An action with its errors renamed does the same. -/
theorem attempt_adapt (x : ExceptT ε (StateM World) α) (f : ε → δ) :
    w.attempt (x.adapt f) = ((w.attempt x).1.mapError f, (w.attempt x).2) :=
  rfl

theorem attempt_adapt_eq_error_iff {x : ExceptT ε (StateM World) α} {f : ε → δ} {e : δ} :
    w.attempt (x.adapt f) = (.error e, w') ↔ ∃ c, w.attempt x = (.error c, w') ∧ e = f c := by
  rw [attempt_adapt]
  simp only [Prod.ext_iff, mapError_eq_error_iff]
  constructor
  · rintro ⟨⟨c, hc, rfl⟩, hw⟩
    exact ⟨c, ⟨hc, hw⟩, rfl⟩
  · rintro ⟨c, ⟨hc, hw⟩, rfl⟩
    exact ⟨⟨c, hc, rfl⟩, hw⟩

theorem attempt_adapt_eq_ok_iff {x : ExceptT ε (StateM World) α} {f : ε → δ} {a : α} :
    w.attempt (x.adapt f) = (.ok a, w') ↔ w.attempt x = (.ok a, w') := by
  rw [attempt_adapt]
  simp only [Prod.ext_iff, mapError_eq_ok_iff]

/-! ### What actions leave -/

/-- No run of the action changes what is seen of the world. -/
def Leaves (view : World → ν) (x : StateM World α) : Prop :=
  ∀ w, view (x w).2 = view w

section Leaves

variable {view : World → ν}

theorem leaves_pure (a : α) : Leaves view (pure a : StateM World α) := fun _ => rfl

theorem Leaves.bind {x : StateM World α} {f : α → StateM World β} (hx : Leaves view x)
    (hf : ∀ a, Leaves view (f a)) : Leaves view (x >>= f) :=
  fun w => (hf (x w).1 (x w).2).trans (hx w)

theorem Leaves.run_bind {x : ExceptT ε (StateM World) α} {f : α → ExceptT ε (StateM World) β}
    (hx : Leaves view x.run) (hf : ∀ a, Leaves view (f a).run) : Leaves view (x >>= f).run := by
  rw [ExceptT.run_bind]
  refine hx.bind fun r => ?_
  cases r with
  | ok a => exact hf a
  | error e => exact leaves_pure _

theorem Leaves.run_adapt {x : ExceptT ε (StateM World) α} (hx : Leaves view x.run) (f : ε → δ) :
    Leaves view (x.adapt f).run :=
  fun w => hx w

theorem Leaves.run_mapM {f : α → ExceptT ε (StateM World) β} (hf : ∀ a, Leaves view (f a).run) :
    ∀ l : List α, Leaves view (l.mapM f).run
  | [] => fun _ => rfl
  | a :: l => by
    rw [List.mapM_cons]
    exact (hf a).run_bind fun _ => (run_mapM hf l).run_bind fun _ => leaves_pure _

theorem Leaves.attempt {x : ExceptT ε (StateM World) α} (hx : Leaves view x.run) (w : World) :
    view (w.attempt x).2 = view w :=
  hx w

end Leaves

/-! ### What actions keep -/

/-- What holds of a world holds after every run of the action. -/
def Preserves (I : World → Prop) (x : StateM World α) : Prop := ∀ w, I w → I (x w).2

section Preserves

variable {I : World → Prop}

theorem preserves_pure (a : α) : Preserves I (pure a : StateM World α) := fun _ h => h

theorem Preserves.bind {x : StateM World α} {f : α → StateM World β} (hx : Preserves I x)
    (hf : ∀ a, Preserves I (f a)) : Preserves I (x >>= f) :=
  fun w h => hf (x w).1 (x w).2 (hx w h)

theorem Preserves.run_bind {x : ExceptT ε (StateM World) α} {f : α → ExceptT ε (StateM World) β}
    (hx : Preserves I x.run) (hf : ∀ a, Preserves I (f a).run) : Preserves I (x >>= f).run := by
  rw [ExceptT.run_bind]
  refine hx.bind fun r => ?_
  cases r with
  | ok a => exact hf a
  | error e => exact preserves_pure _

theorem Preserves.run_adapt {x : ExceptT ε (StateM World) α} (hx : Preserves I x.run) (f : ε → δ) :
    Preserves I (x.adapt f).run :=
  fun w h => hx w h

theorem Preserves.of_attempt {x : ExceptT ε (StateM World) α} (hx : Preserves I x.run)
    {r : Except ε α} (hrun : w.attempt x = (r, w')) (h : I w) : I w' := by
  have hafter : (w.attempt x).2 = w' := by rw [hrun]
  exact hafter ▸ hx w h

/-- A change of the tree keeps what every tree that it leads to keeps. -/
theorem preserves_edit (edit : FileTree → Except OsError FileTree)
    (h : ∀ w t, I w → edit w.tree = .ok t → I { w with tree := t }) :
    Preserves I fun w => w.edit (edit w.tree) := by
  intro w hw
  change I (w.edit (edit w.tree)).2
  cases hedit : edit w.tree with
  | error e => exact hw
  | ok t => exact h w t hw hedit

end Preserves

/-! ### How actions fail -/

/-- Every run of the action that fails does so with an error of this kind. -/
def ErrorsAmong (P : ε → Prop) (x : ExceptT ε (StateM World) α) : Prop :=
  ∀ (w : World) (e : ε) (w' : World), w.attempt x = (.error e, w') → P e

theorem errorsAmong_pure (a : α) : ErrorsAmong P (pure a) :=
  fun _ _ _ h => nomatch (Prod.ext_iff.1 h).1

theorem errorsAmong_lift (x : StateM World α) : ErrorsAmong P (ExceptT.lift x) :=
  fun _ _ _ h => nomatch (Prod.ext_iff.1 h).1

theorem ErrorsAmong.bind {x : ExceptT ε (StateM World) α} {f : α → ExceptT ε (StateM World) β}
    (hx : ErrorsAmong P x) (hf : ∀ a, ErrorsAmong P (f a)) : ErrorsAmong P (x >>= f) := by
  intro w e w' h
  obtain h | ⟨a, w₁, -, h⟩ := attempt_bind_eq_error_iff.1 h
  · exact hx w e w' h
  · exact hf a w₁ e w' h

theorem ErrorsAmong.adapt {Q : δ → Prop} {x : ExceptT ε (StateM World) α} {f : ε → δ}
    (hx : ErrorsAmong P x) (hf : ∀ e, P e → Q (f e)) : ErrorsAmong Q (x.adapt f) := by
  intro w e w' h
  obtain ⟨c, hc, rfl⟩ := attempt_adapt_eq_error_iff.1 h
  exact hf c (hx w c w' hc)

theorem errorsAmong_mapError {x : StateM World (Except δ α)} {f : δ → ε} (hf : ∀ c, P (f c)) :
    ErrorsAmong P (ExceptT.mk do return (← x).mapError f) := by
  intro w e w' h
  obtain ⟨c, -, rfl⟩ := mapError_eq_error_iff.1 (Prod.ext_iff.1 h).1
  exact hf c

end World

/-- The error is one of writing. -/
def FileError.IsWrite : FileError → Prop
  | .read _ _ => False
  | .write _ _ => True

namespace Path

open World

variable {ν : Type} {view : World → ν}

/-! ### Reading and writing -/

theorem leaves_readText (p : Path) : Leaves view (p.readText : ExceptT FileError _ _).run :=
  fun _ => rfl

theorem errorsAmong_writeText (p : Path) (text : String) :
    ErrorsAmong FileError.IsWrite (p.writeText text) := by
  have hfile : ErrorsAmong FileError.IsWrite
      (ExceptT.mk do return (← Host.writeText p text).mapError (.write p)) :=
    errorsAmong_mapError fun _ => trivial
  rw [writeText]
  split
  · exact (errorsAmong_mapError fun _ => trivial).bind fun _ => hfile
  · exact hfile

/-- Writing a text makes the directory of the file and then writes the file. -/
theorem attempt_writeText_eq_ok_iff {p : Path} {text : String} {w w' : World} :
    w.attempt (p.writeText text) = (.ok (), w') ↔
      ∃ w₁ tree, (∀ dir ∈ p.parent?, (dir.makeDirectories : StateM World _) w = (.ok (), w₁)) ∧
        (p.parent? = none → w₁ = w) ∧ w₁.tree.write p text.toUTF8 = .ok tree ∧
        w' = { w₁ with tree } := by
  have hfile : ∀ w₁ : World, w₁.attempt
      (ExceptT.mk do return (← Host.writeText p text).mapError (FileError.write p)) = (.ok (), w') ↔
        ∃ tree, w₁.tree.write p text.toUTF8 = .ok tree ∧ w' = { w₁ with tree } := by
    intro w₁
    change ((w₁.edit (w₁.tree.write p text.toUTF8)).1.mapError (FileError.write p),
      (w₁.edit (w₁.tree.write p text.toUTF8)).2) = (.ok (), w') ↔ _
    rw [Prod.ext_iff, mapError_eq_ok_iff]
    cases w₁.tree.write p text.toUTF8 with
    | error e => simp [World.edit]
    | ok tree => simp [World.edit, eq_comm]
  rw [writeText]
  cases p.parent? with
  | none => exact (hfile w).trans (by simp)
  | some dir =>
    have hdir : ∀ w₁ : World, w.attempt
        (ExceptT.mk do return (← dir.makeDirectories).mapError (FileError.write dir))
          = (.ok (), w₁) ↔
          (dir.makeDirectories : StateM World _) w = (.ok (), w₁) := by
      intro w₁
      change (((dir.makeDirectories : StateM World _) w).1.mapError (FileError.write dir),
        ((dir.makeDirectories : StateM World _) w).2) = _ ↔ _
      rw [Prod.ext_iff, mapError_eq_ok_iff, Prod.ext_iff]
    simp only [attempt_bind_eq_ok_iff, hdir, hfile, Option.mem_def, Option.some_inj]
    constructor
    · rintro ⟨_, w₁, hmake, tree, hwrite, rfl⟩
      exact ⟨w₁, tree, fun _ heq => heq ▸ hmake, nofun, hwrite, rfl⟩
    · rintro ⟨w₁, tree, hmake, -, hwrite, rfl⟩
      exact ⟨(), w₁, hmake dir rfl, tree, hwrite, rfl⟩

/-- A text that was written was written to some tree. -/
theorem exists_write_of_writeText {p : Path} {text : String} {w w' : World}
    (h : w.attempt (p.writeText text) = (.ok (), w')) :
    ∃ t : FileTree, t.write p text.toUTF8 = .ok w'.tree := by
  obtain ⟨w₁, tree, -, -, hwrite, rfl⟩ := attempt_writeText_eq_ok_iff.1 h
  exact ⟨w₁.tree, hwrite⟩

/-- A text that was written is read back. -/
theorem readText_of_writeText {p : Path} {text : String} {w w' : World}
    (h : w.attempt (p.writeText text) = (.ok (), w')) : w'.tree.readText p = .ok text := by
  obtain ⟨t, hwrite⟩ := exists_write_of_writeText h
  exact FileTree.readText_write hwrite

/-! ### What writing keeps -/

section Keep

variable {I : World → Prop} (hmake : ∀ dir, Preserves I (Host.makeDirectory dir))

include hmake

/-- Making a directory and all above it keeps what making one directory keeps. -/
theorem preserves_makeDirectories (lead : List Char) (parts : List (List Char)) :
    Preserves I (PlotDeck.makeDirectories lead parts) := by
  have hunless : ∀ dir e, Preserves I (PlotDeck.makeDirectories.unlessThere dir e) := by
    intro dir e
    rw [PlotDeck.makeDirectories.unlessThere]
    refine Preserves.bind (fun _ h => h) fun there => ?_
    split <;> exact preserves_pure _
  induction parts with
  | nil =>
    rw [PlotDeck.makeDirectories]
    exact preserves_pure _
  | cons part above ih =>
    rw [PlotDeck.makeDirectories]
    refine (hmake _).bind fun r => ?_
    split
    · exact preserves_pure _
    · -- the directory above is missing: it is made first, and then this one again
      refine ih.bind fun r => ?_
      split
      · exact preserves_pure _
      · refine (hmake _).bind fun r => ?_
        split
        · exact preserves_pure _
        · exact hunless _ _
    · exact hunless _ _

theorem preserves_writeText_of {p : Path} (hwrite : ∀ text, Preserves I (Host.writeText p text))
    (text : String) : Preserves I (p.writeText text : ExceptT FileError _ _).run := by
  have hfile : Preserves I
      (ExceptT.mk do return (← Host.writeText p text).mapError (FileError.write p)).run :=
    (hwrite text).bind fun _ => preserves_pure _
  rw [writeText]
  split
  · next dir _ =>
    have hdir : Preserves I
        (ExceptT.mk do return (← dir.makeDirectories).mapError (FileError.write dir)).run :=
      (preserves_makeDirectories hmake _ _).bind fun _ => preserves_pure _
    exact hdir.run_bind fun _ => hfile
  · exact hfile

end Keep

/-- The file reads as this text. -/
def Reads (p : Path) (text : String) (w : World) : Prop := w.tree.readText p = .ok text

/-- Writing a file keeps what a file apart from it reads as. -/
theorem preserves_writeText {p q : Path} {text : String} (hapart : p.Apart q) (content : String) :
    Preserves (Reads p text) (q.writeText content : ExceptT FileError _ _).run := by
  refine preserves_writeText_of (fun dir => ?_) (fun content => ?_) content
  · exact preserves_edit (·.makeDirectory dir) fun _ _ hread h =>
      FileTree.readText_makeDirectory h hread
  · exact preserves_edit (·.write q content.toUTF8) fun _ _ hread h =>
      FileTree.readText_write_of_apart h hapart hread

/-! ### Writing again -/

/-- The directory of these parts is there, if there are any. -/
def DirectoryThere (lead : List Char) (parts : List (List Char)) (w : World) : Prop :=
  parts = [] ∨ w.tree.isDirectory (ofPartsBack lead parts) = true

/-- The file is there, and so is the directory that it is in. -/
structure Written (p : Path) (w : World) : Prop where
  /-- There is a file. -/
  isFile : w.tree.isFile p = true
  /-- There is a directory, as it is spelled when it is made. -/
  directory : ∀ dir ∈ p.parent?, DirectoryThere (lead dir.text.toList) dir.partsBack w

section MakeDirectories

variable {dir : Path} {lead : List Char} {parts : List (List Char)} {w w' : World}

theorem makeDirectory_of_ok {tree : FileTree} (h : w.tree.makeDirectory dir = .ok tree) :
    (Host.makeDirectory dir : StateM World _) w = (.ok (), { w with tree }) := by
  change w.edit (w.tree.makeDirectory dir) = _
  rw [h]
  rfl

theorem makeDirectory_of_error {e : OsError} (h : w.tree.makeDirectory dir = .error e) :
    (Host.makeDirectory dir : StateM World _) w = (.error e, w) := by
  change w.edit (w.tree.makeDirectory dir) = _
  rw [h]
  rfl

theorem unlessThere_eq (dir : Path) (e : OsError) (w : World) :
    (PlotDeck.makeDirectories.unlessThere dir e : StateM World _) w
      = if w.tree.isDirectory dir then (.ok (), w) else (.error e, w) := by
  change (if w.tree.isDirectory dir then pure (.ok ()) else pure (.error e) :
    StateM World (Except OsError Unit)) w = _
  split <;> rfl

theorem isDirectory_of_unlessThere {e : OsError}
    (h : (PlotDeck.makeDirectories.unlessThere dir e : StateM World _) w = (.ok (), w')) :
    w'.tree.isDirectory dir = true := by
  rw [unlessThere_eq] at h
  split at h
  · next hthere =>
    cases h
    exact hthere
  · cases h

theorem isDirectory_of_make
    (h : (PlotDeck.makeDirectories.make dir : StateM World _) w = (.ok (), w')) :
    w'.tree.isDirectory dir = true := by
  rw [PlotDeck.makeDirectories.make] at h
  cases hmake : w.tree.makeDirectory dir with
  | ok tree =>
    rw [bind_of_eq (makeDirectory_of_ok hmake)] at h
    cases h
    exact FileTree.isDirectory_makeDirectory hmake
  | error e =>
    rw [bind_of_eq (makeDirectory_of_error hmake)] at h
    exact isDirectory_of_unlessThere h

/-- A directory is there once it has been made. -/
theorem directoryThere_of_makeDirectories
    (h : (PlotDeck.makeDirectories lead parts : StateM World _) w = (.ok (), w')) :
    DirectoryThere lead parts w' := by
  cases parts with
  | nil => exact .inl rfl
  | cons part above =>
    refine .inr ?_
    rw [PlotDeck.makeDirectories] at h
    cases hmake : w.tree.makeDirectory (ofPartsBack lead (part :: above)) with
    | ok tree =>
      rw [bind_of_eq (makeDirectory_of_ok hmake)] at h
      cases h
      exact FileTree.isDirectory_makeDirectory hmake
    | error e =>
      rw [bind_of_eq (makeDirectory_of_error hmake)] at h
      cases e with
      | notFound =>
        -- the directory above is missing: whatever came of making it, this one is made last
        cases habove : (PlotDeck.makeDirectories lead above : StateM World _) w with
        | mk r w₁ =>
          dsimp only at h
          rw [bind_of_eq habove] at h
          cases r with
          | ok => exact isDirectory_of_make h
          | error e => cases h
      | _ => exact isDirectory_of_unlessThere h

/-- Where the directory is, nothing is made. -/
theorem makeDirectories_of_directoryThere (h : DirectoryThere lead parts w) :
    (PlotDeck.makeDirectories lead parts : StateM World _) w = (.ok (), w) := by
  cases parts with
  | nil => rfl
  | cons part above =>
    have hthere := h.resolve_left (List.cons_ne_nil _ _)
    have hmake := makeDirectory_of_error (FileTree.makeDirectory_of_isDirectory hthere)
    rw [PlotDeck.makeDirectories, bind_of_eq hmake]
    exact (unlessThere_eq _ _ _).trans (if_pos hthere)

end MakeDirectories

section Written

variable {p q : Path} {text : String} {w w' : World}

/-- A change of the tree that keeps files and directories keeps what was written. -/
theorem Written.of_tree {t : FileTree} (hfile : ∀ q, w.tree.isFile q = true → t.isFile q = true)
    (hdir : ∀ q, w.tree.isDirectory q = true → t.isDirectory q = true) (h : Written p w) :
    Written p { w with tree := t } where
  isFile := hfile p h.isFile
  directory dir hparent := (h.directory dir hparent).imp_right (hdir _)

theorem preserves_written_writeText (content : String) :
    Preserves (Written p) (q.writeText content : ExceptT FileError _ _).run := by
  refine preserves_writeText_of (fun dir => ?_) (fun content => ?_) content
  · refine preserves_edit (·.makeDirectory dir) fun w t h hmake => ?_
    obtain ⟨names, -, hnone, rfl⟩ := FileTree.makeDirectory_cases hmake
    have hitem := FileTree.not_directory_of_eq_none hnone
    exact h.of_tree (fun _ => FileTree.isFile_put hitem (.inl hnone))
      (fun _ => FileTree.isDirectory_put hitem)
  · refine preserves_edit (·.write q content.toUTF8) fun w t h hwrite => ?_
    obtain ⟨names, executable, -, -, hitem, rfl⟩ := FileTree.write_cases hwrite
    exact h.of_tree (fun _ => FileTree.isFile_put hitem (.inr rfl))
      (fun _ => FileTree.isDirectory_put hitem)

/-- What was written is there. -/
theorem written_of_writeText (h : w.attempt (p.writeText text) = (.ok (), w')) : Written p w' := by
  obtain ⟨w₁, tree, hdir, -, hwrite, rfl⟩ := attempt_writeText_eq_ok_iff.1 h
  refine ⟨FileTree.isFile_write hwrite, fun dir hparent => ?_⟩
  obtain ⟨names, executable, -, -, hitem, rfl⟩ := FileTree.write_cases hwrite
  exact (directoryThere_of_makeDirectories (hdir dir hparent)).imp_right
    (FileTree.isDirectory_put hitem)

/-- Where a file was written, every text can be written. -/
theorem Written.exists_attempt_writeText (h : Written p w) (text : String) :
    ∃ w', w.attempt (p.writeText text) = (.ok (), w') := by
  obtain ⟨tree, hwrite⟩ := FileTree.exists_write_of_isFile h.isFile text.toUTF8
  exact ⟨_, attempt_writeText_eq_ok_iff.2 ⟨w, tree, fun dir hparent =>
    makeDirectories_of_directoryThere (h.directory dir hparent), fun _ => rfl, hwrite, rfl⟩⟩

end Written

end Path

end PlotDeck

import PlotDeck.Proofs.Build.Removal
import PlotDeck.Proofs.CommandLine.FailedRun
import PlotDeck.Proofs.Path.Directory

/-!
# Where the compiler leaves its files

The outputs of a deck are planned by joining its directory and its stem; what the compiler makes is
found by taking the path of the main document apart again. Both come to the same paths, whatever the
directory and the stem are (`OutputPaths.artifactBase_ofStem`). So what is reported as the typeset
document is the one that was planned, it is the one that is shown, and nothing but its intermediate
files goes when the build cleans up (`OutputPaths.typeset_ofConfig`).
-/

namespace PlotDeck

open World PlotDeck.Path

/-- If a compiler is given a directory at all, it is the one that its document is in. -/
theorem Compiler.artifactBase_eq {c : Compiler} {tex : Path}
    (h : ∀ out ∈ c.outputDir, out = tex.directory) :
    c.artifactBase tex = tex.directory.join ⟨tex.stem⟩ := by
  cases hout : c.outputDir with
  | none => rw [artifactBase, hout, directory, stem, Option.orElse_none]
  | some out => rw [artifactBase, hout, h out hout, stem, Option.orElse_some, Option.getD_some]

namespace OutputPaths

/-- The name that the typeset document and its intermediate files share. -/
def baseName (stem : String) : String := stem ++ "_slides"

theorem baseName_append_dot (stem ext : String) :
    baseName stem ++ "." ++ ext = stem ++ ("_slides." ++ ext) := by
  have hdot : "_slides." = "_slides" ++ "." := by decide
  rw [baseName, hdot, String.append_assoc, String.append_assoc, String.append_assoc]

theorem main_ofStem (dir : Path) (stem : String) :
    (ofStem dir stem).main = dir.join ⟨baseName stem ++ "." ++ "tex"⟩ := by
  have hending : "_slides." ++ "tex" = "_slides.tex" := by decide
  rw [baseName_append_dot, hending, ofStem]

theorem pdf_ofStem (dir : Path) (stem : String) :
    (ofStem dir stem).pdf = dir.join ⟨baseName stem ++ "." ++ "pdf"⟩ := by
  have hending : "_slides." ++ "pdf" = "_slides.pdf" := by decide
  rw [baseName_append_dot, hending, ofStem]

/-- The compiler for some outputs is given their directory, or none. -/
theorem eq_dir_of_mem_outputDir (o : OutputPaths) {b : BuildOptions} {nonstop : Bool} {out : Path}
    (h : out ∈ (b.compilerFor o nonstop).outputDir) : out = o.dir := by
  rw [BuildOptions.compilerFor] at h
  dsimp only at h
  split at h
  · cases h
  · exact (Option.some.inj h).symm

/-- The extensions of intermediate files hold no slash and are not empty. -/
theorem forall_mem_intermediateExtensions :
    ∀ ext ∈ intermediateExtensions, '/' ∉ ext.toList ∧ ext ≠ "" := by
  decide

section OfStem

variable {dir : Path} {stem : String}

theorem isName_baseName (hstem : '/' ∉ stem.toList) :
    '/' ∉ (baseName stem).toList ∧ isIdle (baseName stem).toList = false := by
  obtain ⟨hslash, hnamed, -⟩ := isName_append hstem (by decide : '/' ∉ "_slides".toList) (by decide)
  exact ⟨hslash, hnamed⟩

variable (hdir : dir.IsTidy) (hstem : '/' ∉ stem.toList) (b : BuildOptions) (nonstop : Bool)

include hdir hstem

/-- The compiler makes everything in the directory that the outputs are planned in, and names it
after the same stem. -/
theorem artifactBase_ofStem :
    (b.compilerFor (ofStem dir stem) nonstop).artifactBase (ofStem dir stem).main
      = dir.join ⟨baseName stem⟩ := by
  obtain ⟨hslash, hnamed⟩ := isName_baseName hstem
  have hname : (ofStem dir stem).main.fileStem? = some (baseName stem) := by
    rw [main_ofStem]
    exact fileStem?_join_dot _ hslash hnamed (by decide) (by decide) (by decide)
  have hmain : (ofStem dir stem).main.directory = dir := dir_ofStem hdir hstem
  have hout : ∀ out ∈ (b.compilerFor (ofStem dir stem) nonstop).outputDir,
      out = (ofStem dir stem).main.directory := fun out hout => eq_dir_of_mem_outputDir _ hout
  rw [Compiler.artifactBase_eq hout, hmain, Path.stem, hname, Option.getD_some]

/-- What is made from a deck next to its outputs, by extension. -/
theorem addExtension_artifactBase {ext : String} (hext : '/' ∉ ext.toList) :
    ((b.compilerFor (ofStem dir stem) nonstop).artifactBase (ofStem dir stem).main).addExtension ext
      = dir.join ⟨baseName stem ++ "." ++ ext⟩ := by
  rw [artifactBase_ofStem hdir hstem, addExtension_join _ (isName_baseName hstem).1 hext]

theorem pdf_compilerFor :
    (b.compilerFor (ofStem dir stem) nonstop).pdf (ofStem dir stem).main
      = (ofStem dir stem).pdf := by
  rw [Compiler.pdf, addExtension_artifactBase hdir hstem b nonstop (by decide), pdf_ofStem]

/-- The intermediate files have the path of the typeset document with another extension. -/
theorem intermediates_compilerFor :
    intermediates ((b.compilerFor (ofStem dir stem) nonstop).artifactBase (ofStem dir stem).main)
      = intermediateExtensions.map (ofStem dir stem).pdf.withExtension := by
  obtain ⟨hslash, hnamed⟩ := isName_baseName hstem
  refine List.map_congr_left fun ext hmem => ?_
  obtain ⟨hext, hne⟩ := forall_mem_intermediateExtensions ext hmem
  rw [addExtension_artifactBase hdir hstem b nonstop hext, pdf_ofStem,
    withExtension_join_dot _ hslash hnamed (by decide) (by decide) (by decide) hext hne]

end OfStem

end OutputPaths

/-! ### What a build does -/

namespace Compiler

variable {c : Compiler} {tex : Path} {failures : List FailedPass} {w w₁ : World}

/-- A compiler that could be started leaves its report, however its passes ended. What is removed
then is among the intermediate files of the document. -/
theorem exists_attempt_compile
    (h : w.attempt (c.runPasses tex c.passes 1) = (.ok failures, w₁)) :
    ∃ removed tree, w.attempt (c.compile tex)
        = (.ok { pdf := c.pdf tex, passes := c.passes, failures, removed }, { w₁ with tree }) ∧
      removed.Sublist (intermediates (c.artifactBase tex)) ∧ w₁.tree.LosesAt tree removed := by
  rw [compile, attempt_bind, h]
  cases c.cleanup with
  | false => exact ⟨[], w₁.tree, rfl, List.nil_sublist _, w₁.tree.losesAt_nil⟩
  | true =>
    obtain ⟨removed, tree, hrun, hsub, hloses⟩ :=
      removeFiles_eq (intermediates (c.artifactBase tex)) w₁
    have hremove : w₁.attempt (ExceptT.lift (removeIntermediates (c.artifactBase tex)) :
        ExceptT StartError (StateM World) _) = (.ok removed, { w₁ with tree }) := by
      rw [attempt_lift, removeIntermediates, hrun]
    refine ⟨removed, tree, ?_, hsub, hloses⟩
    change w₁.attempt (ExceptT.lift (removeIntermediates (c.artifactBase tex)) >>= _) = _
    rw [attempt_bind, hremove]
    rfl

/-- A report names the typeset document, and as removed at most its intermediate files. -/
theorem report_of_compile {report : BuildReport}
    (h : w.attempt (c.compile tex) = (.ok report, w₁)) :
    report.pdf = c.pdf tex ∧ report.removed.Sublist (intermediates (c.artifactBase tex)) := by
  obtain ⟨failures, w₂, hpasses, -⟩ := attempt_bind_eq_ok_iff.1 h
  obtain ⟨removed, tree, hcompile, hsub, -⟩ := exists_attempt_compile hpasses
  obtain ⟨hreport, -⟩ := Prod.ext_iff.1 (h.symm.trans hcompile)
  obtain rfl := Except.ok.inj hreport
  exact ⟨rfl, hsub⟩

end Compiler

/-- Showing a document starts the viewer on it, if that is wanted and the document is there. -/
theorem attempt_openViewer (view : Bool) (pdf : Path) (w : World) :
    w.attempt (if view then do let _ ← ExceptT.lift (openViewer pdf) else pure () :
        ExceptT RunError (StateM World) Unit)
      = (.ok (), if view ∧ w.tree.isFile pdf then (w.run (viewerCommand pdf)).2 else w) := by
  have hviewer : ((openViewer pdf : StateM World _) w).2
      = if w.tree.isFile pdf then (w.run (viewerCommand pdf)).2 else w := by
    change ((if w.tree.isFile pdf then _ else _ : StateM World Bool) w).2 = _
    split <;> rfl
  cases view with
  | false =>
    rw [if_neg (c := false = true ∧ _) (by simp)]
    rfl
  | true =>
    rw [if_pos rfl, attempt_bind, attempt_lift, hviewer]
    simp only [true_and]
    rfl

section Build

variable {d : Deck} {o : OutputPaths} {b : BuildOptions} {nonstop : Bool} {w w' : World}

/-- What follows the reading of the front matter: the documents are made, the main one is compiled
and, if that is wanted, the outcome is shown. -/
theorem Deck.attempt_typeset {front : Option String}
    (h : w.attempt (d.make o (b.renderOptions front) >>= fun _ => do
      let _ ← ((b.compilerFor o nonstop).compile o.main).adapt .start
      if b.view then do
        let _ ← ExceptT.lift (openViewer o.pdf)) = (.ok (), w')) :
    ∃ docs w₁ report w₂, w.attempt (d.make o (b.renderOptions front)) = (.ok docs, w₁) ∧
      w₁.attempt ((b.compilerFor o nonstop).compile o.main) = (.ok report, w₂) ∧
      w' = if b.view ∧ w₂.tree.isFile o.pdf then (w₂.run (viewerCommand o.pdf)).2 else w₂ := by
  obtain ⟨docs, w₁, hmake, hrest⟩ := attempt_bind_eq_ok_iff.1 h
  obtain ⟨report, w₂, hstart, hview⟩ := attempt_bind_eq_ok_iff.1 hrest
  have hcompile := attempt_adapt_eq_ok_iff.1 hstart
  have hshown := (attempt_openViewer b.view o.pdf w₂).symm.trans hview
  exact ⟨docs, w₁, report, w₂, hmake, hcompile, (Prod.ext_iff.1 hshown).2.symm⟩

/-- A build that typesets does so with the front matter that was asked for, if there is one. -/
theorem Deck.attempt_build_of_typeset (htypeset : b.typeset = true)
    (h : w.attempt (d.build o b nonstop) = (.ok (), w')) :
    ∃ front docs w₁ report w₂, w.attempt (d.make o (b.renderOptions front)) = (.ok docs, w₁) ∧
      w₁.attempt ((b.compilerFor o nonstop).compile o.main) = (.ok report, w₂) ∧
      w' = if b.view ∧ w₂.tree.isFile o.pdf then (w₂.run (viewerCommand o.pdf)).2 else w₂ := by
  rw [build, htypeset] at h
  split at h
  · next p _ =>
    obtain ⟨text, w₁, hread, hbuild⟩ := attempt_bind_eq_ok_iff.1 h
    -- reading the front matter leaves the world as it is
    obtain rfl : w₁ = w := (Prod.ext_iff.1 hread).2.symm
    exact ⟨some text, attempt_typeset hbuild⟩
  · exact ⟨none, attempt_typeset h⟩

end Build

/-- **Where a build leaves its files**, whatever the directory and the stem of the deck are. The
intermediate files of its compiler have the path of the planned document with another extension. A
compiler that could be started reports the planned document, and afterwards the tree has lost at
most some of these intermediate files. A build that typesets ends with that report, and the document
that is reported is the one that is shown. -/
theorem OutputPaths.typeset_ofConfig (p : Path) (b : BuildOptions) (nonstop : Bool) :
    intermediates ((b.compilerFor (ofConfig p) nonstop).artifactBase (ofConfig p).main)
        = intermediateExtensions.map (ofConfig p).pdf.withExtension ∧
    (∀ (w w₁ : World) (failures : List FailedPass),
      w.attempt ((b.compilerFor (ofConfig p) nonstop).runPasses (ofConfig p).main 2 1)
        = (.ok failures, w₁) →
      ∃ removed tree, w.attempt ((b.compilerFor (ofConfig p) nonstop).compile (ofConfig p).main)
          = (.ok { pdf := (ofConfig p).pdf, passes := 2, failures, removed }, { w₁ with tree }) ∧
        removed.Sublist (intermediateExtensions.map (ofConfig p).pdf.withExtension) ∧
        w₁.tree.LosesAt tree removed) ∧
    ∀ (d : Deck) (w w' : World), b.typeset = true →
      w.attempt (d.build (ofConfig p) b nonstop) = (.ok (), w') →
      ∃ front docs w₁ report w₂,
        w.attempt (d.make (ofConfig p) (b.renderOptions front)) = (.ok docs, w₁) ∧
        w₁.attempt ((b.compilerFor (ofConfig p) nonstop).compile (ofConfig p).main)
          = (.ok report, w₂) ∧
        report.pdf = (ofConfig p).pdf ∧
        report.removed.Sublist (intermediateExtensions.map (ofConfig p).pdf.withExtension) ∧
        w' = if b.view ∧ w₂.tree.isFile report.pdf then (w₂.run (viewerCommand report.pdf)).2
          else w₂ := by
  have hstem := slash_not_mem_fileStem p
  have hpdf := pdf_compilerFor p.isTidy_directory hstem b nonstop
  have hintermediates := intermediates_compilerFor p.isTidy_directory hstem b nonstop
  rw [← Path.stem, ← ofConfig_eq] at hpdf hintermediates
  refine ⟨hintermediates, fun w w₁ failures hpasses => ?_, fun d w w' htypeset h => ?_⟩
  · obtain ⟨removed, tree, hcompile, hsub, hloses⟩ := Compiler.exists_attempt_compile hpasses
    rw [hpdf] at hcompile
    rw [hintermediates] at hsub
    exact ⟨removed, tree, hcompile, hsub, hloses⟩
  · obtain ⟨front, docs, w₁, report, w₂, hmake, hcompile, hshown⟩ :=
      Deck.attempt_build_of_typeset htypeset h
    obtain ⟨hreport, hsub⟩ := Compiler.report_of_compile hcompile
    rw [hpdf] at hreport
    rw [hintermediates] at hsub
    rw [← hreport] at hshown
    exact ⟨front, docs, w₁, report, w₂, hmake, hcompile, hreport, hsub, hshown⟩

/-- A host where the compiler leaves a log beside the document, which is there to be shown. -/
def typesetting : World where
  tree := (default : FileTree).plantFile ⟨"talks/v1.2_slides.pdf"⟩ .empty false
  programs c t :=
    if c.program = "lualatex" then
      .ok { exit := .code 0, tree := t.plantFile ⟨"talks/v1.2_slides.log"⟩ .empty false }
    else .ok { exit := .code 0, tree := t, out := String.intercalate " " c.args }

/-- A deck with a dot in its name, in a directory with dots in its path: the log is removed, and the
document is shown. -/
theorem OutputPaths.typeset_ofConfig_dotted :
    let o := ofConfig ⟨"./talks/./v1.2.json"⟩
    let c := BuildOptions.compilerFor { view := true } o true
    o.pdf = ⟨"./talks/v1.2_slides.pdf"⟩ ∧
    (∃ w₁ tree, typesetting.attempt (c.runPasses o.main 2 1) = (.ok [], w₁) ∧
      typesetting.attempt (c.compile o.main)
        = (.ok ⟨o.pdf, 2, [], [⟨"./talks/v1.2_slides.log"⟩]⟩, { w₁ with tree }) ∧
      w₁.tree.LosesAt tree [⟨"./talks/v1.2_slides.log"⟩]) ∧
    ∃ (report : BuildReport) (w₂ w' : World),
      typesetting.attempt (Deck.build {} o { view := true } true) = (.ok (), w') ∧
      report.pdf = o.pdf ∧
      w' = (if w₂.tree.isFile report.pdf then (w₂.run (viewerCommand report.pdf)).2 else w₂) ∧
      w'.out = "./talks/v1.2_slides.pdf" := by
  intro o c
  have hpdf : o.pdf = ⟨"./talks/v1.2_slides.pdf"⟩ := by decide +kernel
  obtain ⟨-, hcompile, hbuild⟩ := typeset_ofConfig ⟨"./talks/./v1.2.json"⟩ { view := true } true
  obtain ⟨w₁, hpasses⟩ : ∃ w₁, typesetting.attempt (c.runPasses o.main 2 1) = (.ok [], w₁) :=
    exists_attempt_eq (by decide +kernel)
  obtain ⟨removed, tree, hrun, -, hloses⟩ := hcompile typesetting w₁ [] hpasses
  have hreport : (typesetting.attempt (c.compile o.main)).1
      = .ok ⟨o.pdf, 2, [], [⟨"./talks/v1.2_slides.log"⟩]⟩ := by decide +kernel
  obtain rfl : removed = [⟨"./talks/v1.2_slides.log"⟩] := by
    rw [hrun] at hreport
    cases hreport
    rfl
  obtain ⟨w', hdone⟩ : ∃ w', typesetting.attempt (Deck.build {} o { view := true } true)
      = (.ok (), w') := exists_attempt_eq (by decide +kernel)
  obtain ⟨-, -, -, report, w₂, -, -, hsame, -, hshown⟩ := hbuild {} typesetting w' rfl hdone
  have hout : (typesetting.attempt (Deck.build {} o { view := true } true)).2.out
      = "./talks/v1.2_slides.pdf" := by decide +kernel
  rw [hdone] at hout
  exact ⟨hpdf, ⟨w₁, tree, hpasses, hrun, hloses⟩, report, w₂, w', hdone,
    hsame, by simpa using hshown,
    hout⟩

end PlotDeck

import PlotDeck.Proofs.Build.Artifacts
import PlotDeck.Proofs.Host.Chronicle

/-!
# Accounts of a build

A build accounts for its passes, whatever comes of them. If the compiler can be started for each of
them, all are run, the report names those that did not succeed and no others, and what goes
afterwards is told by the tree that the last pass left; if a start fails, it is the last one, and
nothing goes. Both are proved on a chronicle, where anything may come of the starts
(`Compiler.compile_accounts`).
-/

namespace PlotDeck

theorem Exit.isSuccess_iff {e : Exit} : e.isSuccess = true ↔ e = .code 0 := beq_iff_eq

/-! ### Passes -/

namespace Chronicle

/-- What is left when a command was started and this came of it, each time it was. -/
def afterStarts (s : Chronicle) (c : Command) (outcomes : List Outcome) (turns : List Turn) :
    Chronicle :=
  { s with
    tree := (outcomes.map Outcome.tree).getLastD s.tree
    turns
    deeds := s.deeds ++ List.replicate outcomes.length (.start c) }

variable {s : Chronicle} {c : Command} {o : Outcome} {outcomes : List Outcome} {turns : List Turn}

theorem afterStarts_nil : s.afterStarts c [] s.turns = s := by
  rw [afterStarts, List.length_nil, List.replicate_zero, List.append_nil]
  rfl

theorem afterStarts_cons (turns' : List Turn) :
    s.afterStarts c (o :: outcomes) turns =
      (s.afterStarts c [o] turns').afterStarts c outcomes turns := by
  simp only [afterStarts, List.map_cons, List.map_nil, List.getLastD_cons, List.getLastD_nil,
    List.length_cons, List.length_nil, List.replicate_succ, List.replicate_zero, List.append_assoc,
    List.singleton_append]

theorem run_of_turns_ok (h : s.turns = .ok o :: turns) :
    (Host.run c : StateM Chronicle _) s = (.ok o.exit, s.afterStarts c [o] turns) := by
  change (s.enter (.start c)).next = _
  simp [next, enter, h, afterStarts]

theorem run_of_turns_error {e : OsError} (h : s.turns = .error e :: turns) :
    (Host.run c : StateM Chronicle _) s
      = (.error e, { s with turns, deeds := s.deeds ++ [.start c] }) := by
  change (s.enter (.start c)).next = _
  simp [next, enter, h]

end Chronicle

namespace Compiler

variable {c : Compiler} {tex : Path} {s : Chronicle} {o : Outcome} {outcomes : List Outcome}
  {turns : List Turn} {left pass : Nat} {failures : List FailedPass}

/-- The report of a pass, unless it succeeded. -/
def failedPass? (c : Compiler) (pass : Nat) (e : Exit) : Option FailedPass :=
  if e.isSuccess then none else some ⟨c.program, pass, e.code?⟩

theorem failedPass?_eq_some_iff {e : Exit} {f : FailedPass} :
    c.failedPass? pass e = some f ↔ e ≠ .code 0 ∧ f = ⟨c.program, pass, e.code?⟩ := by
  rw [failedPass?, Option.ite_none_left_eq_some, Exit.isSuccess_iff, Option.some_inj,
    eq_comm (b := f)]

/-- The reports of the passes that did not succeed, where the first of all is counted as `pass`. -/
def failedPasses (c : Compiler) (pass : Nat) (outcomes : List Outcome) : List FailedPass :=
  (outcomes.zipIdx pass).filterMap fun x => c.failedPass? x.2 x.1.exit

theorem failedPasses_cons : c.failedPasses pass (o :: outcomes)
    = if o.exit.isSuccess then c.failedPasses (pass + 1) outcomes
      else ⟨c.program, pass, o.exit.code?⟩ :: c.failedPasses (pass + 1) outcomes := by
  rw [failedPasses, List.zipIdx_cons, List.filterMap_cons, failedPass?]
  cases o.exit.isSuccess <;> rfl

/-- A pass is among the failed ones exactly if it did not leave the code 0. -/
theorem mem_failedPasses_iff {f : FailedPass} : f ∈ c.failedPasses pass outcomes ↔
    ∃ i o, outcomes[i]? = some o ∧ o.exit ≠ .code 0 ∧ f = ⟨c.program, pass + i, o.exit.code?⟩ := by
  rw [failedPasses, List.mem_filterMap]
  constructor
  · rintro ⟨⟨o, i⟩, hmem, hfailed⟩
    obtain ⟨hle, hget⟩ := List.mk_mem_zipIdx_iff_le_and_getElem?_sub.1 hmem
    obtain ⟨hexit, rfl⟩ := failedPass?_eq_some_iff.1 hfailed
    refine ⟨i - pass, o, hget, hexit, ?_⟩
    rw [Nat.add_sub_cancel' hle]
  · rintro ⟨i, o, hget, hexit, rfl⟩
    refine ⟨(o, pass + i), ?_, failedPass?_eq_some_iff.2 ⟨hexit, rfl⟩⟩
    rw [List.mk_mem_zipIdx_iff_le_and_getElem?_sub, Nat.add_sub_cancel_left]
    exact ⟨Nat.le_add_right _ _, hget⟩

/-- The failed passes are reported in the order in which they were run. -/
theorem pairwise_failedPasses (c : Compiler) (pass : Nat) (outcomes : List Outcome) :
    (c.failedPasses pass outcomes).Pairwise (·.pass < ·.pass) := by
  have hindex : (outcomes.zipIdx pass).Pairwise (·.2 < ·.2) := by
    have hrange := List.pairwise_lt_range' (s := pass) (n := outcomes.length)
    rwa [← List.zipIdx_map_snd, List.pairwise_map] at hrange
  refine hindex.filterMap _ fun a b hlt f hf g hg => ?_
  obtain ⟨-, rfl⟩ := failedPass?_eq_some_iff.1 hf
  obtain ⟨-, rfl⟩ := failedPass?_eq_some_iff.1 hg
  exact hlt

/-- No pass failed exactly if all of them left the code 0. -/
theorem failedPasses_eq_nil_iff :
    c.failedPasses pass outcomes = [] ↔ ∀ o ∈ outcomes, o.exit = .code 0 := by
  induction outcomes generalizing pass with
  | nil => simp [failedPasses]
  | cons o outcomes ih =>
    have hrest : c.failedPasses (pass + 1) outcomes = [] ↔ _ := ih
    rw [failedPasses_cons, List.forall_mem_cons, ← hrest, ← Exit.isSuccess_iff]
    split <;> simp_all

/-- Passes that can all be started are run to the last one, whatever comes of them. -/
theorem attempt_runPasses (pass : Nat) (hturns : s.turns = outcomes.map .ok ++ turns) :
    s.attempt (c.runPasses tex outcomes.length pass)
      = (.ok (c.failedPasses pass outcomes), s.afterStarts (c.command tex) outcomes turns) := by
  induction outcomes generalizing s pass with
  | nil =>
    obtain rfl : s.turns = turns := hturns
    rw [Chronicle.afterStarts_nil]
    rfl
  | cons o outcomes ih =>
    have hstart := Chronicle.attempt_mk_mapError (StartError.mk c.program)
      (Chronicle.run_of_turns_ok (c := c.command tex) hturns)
    rw [List.length_cons, runPasses, Chronicle.attempt_bind_of_eq_ok hstart,
      Chronicle.attempt_bind_of_eq_ok (ih (pass + 1) rfl), failedPasses_cons,
      ← Chronicle.afterStarts_cons]
    rfl

/-- The first pass that cannot be started is the last one that is tried. -/
theorem attempt_runPasses_of_error {cause : OsError} (tex : Path) (left pass : Nat)
    (hturns : s.turns = outcomes.map .ok ++ .error cause :: turns) :
    s.attempt (c.runPasses tex (outcomes.length + (left + 1)) pass)
      = (.error ⟨c.program, cause⟩,
        (s.afterStarts (c.command tex) outcomes turns).enter (.start (c.command tex))) := by
  induction outcomes generalizing s pass with
  | nil =>
    -- the passes that are left are not reached
    have hstart := Chronicle.attempt_mk_mapError (StartError.mk c.program)
      (Chronicle.run_of_turns_error (c := c.command tex) hturns)
    rw [List.length_nil, Nat.zero_add, runPasses, Chronicle.attempt_bind_of_eq_error hstart]
    simp [Chronicle.afterStarts, Chronicle.enter]
  | cons o outcomes ih =>
    have hstart := Chronicle.attempt_mk_mapError (StartError.mk c.program)
      (Chronicle.run_of_turns_ok (c := c.command tex) hturns)
    rw [List.length_cons, Nat.add_right_comm, runPasses, Chronicle.attempt_bind_of_eq_ok hstart,
      Chronicle.attempt_bind_of_eq_error (ih (pass + 1) rfl), ← Chronicle.afterStarts_cons]

end Compiler

/-! ### Removals -/

namespace Chronicle

variable {s : Chronicle} {tree tree₁ : FileTree} {p : Path} {paths : List Path}

/-- Whether a path leads to a file that can be removed. -/
def canLose (s : Chronicle) (p : Path) : Bool := s.tree.isFile p && (s.refusal p).isNone

/-- What is left when some paths were to be removed and this is the tree afterwards. -/
def afterRemovals (s : Chronicle) (tree : FileTree) (paths : List Path) : Chronicle :=
  { s with tree, deeds := s.deeds ++ (paths.filter s.tree.isFile).map .remove }

theorem afterRemovals_nil : s.afterRemovals s.tree [] = s := by
  rw [afterRemovals, List.filter_nil, List.map_nil, List.append_nil]

section Others

variable (h : ∀ q ∈ paths, tree₁.isFile q = s.tree.isFile q)

include h

/-- A removal that leaves some other paths as they are does not change what is asked of these. -/
theorem afterRemovals_cons :
    (s.afterRemovals tree₁ [p]).afterRemovals tree paths = s.afterRemovals tree (p :: paths) := by
  simp only [afterRemovals]
  rw [List.filter_congr h, List.append_assoc, ← List.map_append, ← List.filter_append,
    List.singleton_append]

/-- A removal that leaves some other paths as they are does not change which of these can go. -/
theorem filter_canLose_afterRemovals :
    paths.filter (s.afterRemovals tree₁ [p]).canLose = paths.filter s.canLose :=
  List.filter_congr fun q hq => congrArg (· && (s.refusal q).isNone) (h q hq)

end Others

/-- The removal of a path is asked for if it leads to a file, and succeeds if the file can be
removed. -/
theorem exists_removeFile_eq (s : Chronicle) (p : Path) :
    ∃ tree, (removeFiles.removeFile p : StateM Chronicle Bool) s
        = (s.canLose p, s.afterRemovals tree [p]) ∧
      if s.canLose p then s.tree.remove p = .ok tree else tree = s.tree := by
  have hask : (Host.isFile p : StateM Chronicle Bool) s = (s.tree.isFile p, s) := rfl
  have hremove : (Host.removeFile p : StateM Chronicle _) s
      = (s.enter (.remove p)).edit (s.drop p) := rfl
  rw [removeFiles.removeFile, bind_of_eq hask]
  cases hfile : s.tree.isFile p with
  | false =>
    have hstays : s.canLose p = false := by rw [canLose, hfile, Bool.false_and]
    refine ⟨s.tree, ?_, by rw [hstays]; rfl⟩
    rw [afterRemovals, List.filter_cons_of_neg (by simp [hfile]), hstays]
    exact congrArg (false, ·) afterRemovals_nil.symm
  | true =>
    have hasked : ∀ tree, s.afterRemovals tree [p] = { s.enter (.remove p) with tree } := by
      intro tree
      rw [afterRemovals, List.filter_cons_of_pos hfile]
      rfl
    rw [if_pos rfl]
    cases hrefused : s.refusal p with
    | some e =>
      have hstays : s.canLose p = false := by simp [canLose, hrefused]
      rw [drop, hrefused] at hremove
      refine ⟨s.tree, ?_, by rw [hstays]; rfl⟩
      rw [bind_of_eq hremove, hstays, hasked]
      rfl
    | none =>
      have hgoes : s.canLose p = true := by simp [canLose, hfile, hrefused]
      obtain ⟨tree, htree⟩ := FileTree.exists_remove_of_isFile hfile
      rw [drop, hrefused] at hremove
      dsimp only at hremove
      rw [htree] at hremove
      refine ⟨tree, ?_, by rw [hgoes]; exact htree⟩
      rw [bind_of_eq hremove, hgoes, hasked]
      rfl

/-- Of paths that are apart, those go that lead to files which can be removed, and nothing else
does. -/
theorem exists_removeFiles_eq (hapart : paths.Pairwise Path.Apart) (s : Chronicle) :
    ∃ tree, (removeFiles paths : StateM Chronicle _) s
        = (paths.filter s.canLose, s.afterRemovals tree paths) ∧
      s.tree.LosesAt tree (paths.filter s.canLose) ∧
      (∀ q, tree.isFile q = true → s.tree.isFile q = true) ∧
      ∀ q ∈ paths.filter s.canLose, tree.isFile q = false := by
  induction paths generalizing s with
  | nil =>
    refine ⟨s.tree, ?_, s.tree.losesAt_nil, fun _ => id, List.forall_mem_nil _⟩
    rw [afterRemovals_nil]
    rfl
  | cons p rest ih =>
    obtain ⟨hp, hrest⟩ := List.pairwise_cons.1 hapart
    obtain ⟨tree₁, hfirst, htree₁⟩ := s.exists_removeFile_eq p
    obtain ⟨tree, hmore, hloses, hback, hgone⟩ := ih hrest (s.afterRemovals tree₁ [p])
    -- what the first removal leaves of the others
    have hothers : ∀ q ∈ rest, tree₁.isFile q = s.tree.isFile q := by
      intro q hq
      split at htree₁
      · exact FileTree.isFile_remove_of_apart htree₁ (hp q hq).symm
      · rw [htree₁]
    rw [filter_canLose_afterRemovals hothers] at hmore hloses hgone
    rw [afterRemovals_cons hothers] at hmore
    have hrun : (removeFiles (p :: rest) : StateM Chronicle _) s
        = ((p :: rest).filter s.canLose, s.afterRemovals tree (p :: rest)) := by
      rw [removeFiles, bind_of_eq hfirst, bind_of_eq hmore, List.filter_cons]
      rfl
    refine ⟨tree, hrun, ?_⟩
    by_cases hgoes : s.canLose p = true
    · rw [if_pos hgoes] at htree₁
      rw [List.filter_cons_of_pos hgoes]
      refine ⟨hloses.cons htree₁,
        fun q hq => FileTree.isFile_of_isFile_remove htree₁ (hback q hq), ?_⟩
      refine List.forall_mem_cons.2 ⟨?_, hgone⟩
      rw [Bool.eq_false_iff]
      intro hfile
      exact Bool.false_ne_true ((FileTree.not_isFile_remove htree₁).symm.trans (hback p hfile))
    · rw [if_neg hgoes] at htree₁
      subst htree₁
      rw [List.filter_cons_of_neg hgoes]
      exact ⟨hloses, hback, hgone⟩

end Chronicle

/-! ### Builds -/

namespace Compiler

variable {c : Compiler} {tex : Path} {s s₁ : Chronicle} {outcomes : List Outcome}
  {turns : List Turn}
  {failures : List FailedPass}

/-- The files that are to go after the last pass, in this order. -/
def cleared (c : Compiler) (tex : Path) : List Path :=
  if c.cleanup then
    ["toc", "snm", "out", "nav", "log", "aux"].map (c.artifactBase tex).addExtension
  else []

/-- The intermediate files of a document are different files. -/
theorem pairwise_intermediates (c : Compiler) (tex : Path) :
    (intermediates (c.artifactBase tex)).Pairwise Path.Apart := by
  obtain ⟨dir, hbase⟩ : ∃ dir : Path, c.artifactBase tex = dir.join ⟨tex.stem⟩ := ⟨_, rfl⟩
  have hstem : '/' ∉ tex.stem.toList := OutputPaths.slash_not_mem_fileStem tex
  have hends : ∀ ext ∈ intermediateExtensions,
      ((c.artifactBase tex).addExtension ext).EndsIn dir.frontOf
          (tex.stem ++ ("." ++ ext)).toList [] ∧
        (tex.stem ++ ("." ++ ext)).toList ≠ ['.', '.'] := by
    intro ext hmem
    have hending : ∀ ext ∈ intermediateExtensions, '/' ∉ ("." ++ ext).toList ∧
        2 < ("." ++ ext).toList.length := by decide
    obtain ⟨hslash, hlength⟩ := hending ext hmem
    obtain ⟨hext, -⟩ := OutputPaths.forall_mem_intermediateExtensions ext hmem
    rw [hbase, Path.addExtension_join dir hstem hext, String.append_assoc]
    exact OutputPaths.endsIn_append dir hstem hslash hlength
  have hnodup : intermediateExtensions.Nodup := by decide
  rw [intermediates, List.pairwise_map]
  refine hnodup.imp_of_mem fun {ext ext'} hmem hmem' hne => ?_
  obtain ⟨hnew, hup⟩ := hends ext hmem
  obtain ⟨hnew', hup'⟩ := hends ext' hmem'
  refine hnew.apart hnew' hup hup' fun hsame => hne ?_
  rw [← String.append_assoc, ← String.append_assoc] at hsame
  exact (String.append_right_inj (tex.stem ++ ".")).1 (String.toList_inj.1 hsame)

/-- After passes that were all started, what a build removes is told by the tree that they left. -/
theorem exists_attempt_clearing
    (h : s.attempt (c.runPasses tex c.passes 1) = (.ok failures, s₁)) :
    ∃ tree, s.attempt (c.compile tex)
        = (.ok ⟨c.pdf tex, c.passes, failures, (c.cleared tex).filter s₁.canLose⟩,
          s₁.afterRemovals tree (c.cleared tex)) ∧
      s₁.tree.LosesAt tree ((c.cleared tex).filter s₁.canLose) ∧
      ∀ q ∈ (c.cleared tex).filter s₁.canLose, tree.isFile q = false := by
  rw [compile, Chronicle.attempt_bind_of_eq_ok h]
  cases hclean : c.cleanup with
  | false =>
    have hcleared : c.cleared tex = [] := by simp [cleared, hclean]
    rw [hcleared]
    refine ⟨s₁.tree, ?_, s₁.tree.losesAt_nil, List.forall_mem_nil _⟩
    rw [Chronicle.afterRemovals_nil]
    rfl
  | true =>
    have hcleared : c.cleared tex = intermediates (c.artifactBase tex) := by
      rw [cleared, hclean, if_pos rfl, intermediates, intermediateExtensions]
    obtain ⟨tree, hrun, hloses, -, hgone⟩ :=
      Chronicle.exists_removeFiles_eq (c.pairwise_intermediates tex) s₁
    rw [hcleared]
    exact ⟨tree, Chronicle.attempt_bind_of_eq_ok (Chronicle.attempt_lift_of_eq hrun), hloses, hgone⟩

/-- How a build accounts for passes that were all started and had these outcomes, where `last` is
the tree that the last of them left. -/
structure Accounts (c : Compiler) (tex : Path) (outcomes : List Outcome) (last : FileTree)
    (s s' : Chronicle) (report : BuildReport) : Prop where
  pdf : report.pdf = c.pdf tex
  passes : report.passes = c.passes
  /-- There is a failure for each pass that did not leave the code 0, and for no other pass. -/
  failures_iff : ∀ f, f ∈ report.failures ↔ ∃ i o, outcomes[i]? = some o ∧ o.exit ≠ .code 0 ∧
    f = ⟨c.program, i + 1, o.exit.code?⟩
  increasing : report.failures.Pairwise (·.pass < ·.pass)
  isSuccess_iff : report.isSuccess = true ↔ ∀ o ∈ outcomes, o.exit = .code 0
  /-- Those intermediate files are removed that are there after the last pass and can be removed. -/
  removed : report.removed = (c.cleared tex).filter fun p => last.isFile p && (s.refusal p).isNone
  gone : ∀ p ∈ report.removed, s'.tree.isFile p = false
  kept : last.LosesAt s'.tree report.removed
  /-- The passes are started, and then nothing is asked for but the removal of intermediate
  files. -/
  deeds : s'.deeds = s.deeds ++ List.replicate c.passes (.start (c.command tex)) ++
    ((c.cleared tex).filter last.isFile).map .remove

/-- **How a build accounts for its passes**, whatever comes of them. If each of its passes can be
started, all of them are run, and those that do not leave the code 0 are reported, in order; what is
removed then depends on what is there, and not on how the passes ended. If one of them cannot be
started, the build ends with that error: no other pass is started, and nothing is removed. -/
theorem compile_accounts (c : Compiler) (tex : Path) (s : Chronicle) (outcomes : List Outcome)
    (turns : List Turn) :
    (outcomes.length = c.passes → s.turns = outcomes.map .ok ++ turns →
      ∃ report s', s.attempt (c.compile tex) = (.ok report, s') ∧ s'.turns = turns ∧
        c.Accounts tex outcomes ((outcomes.map Outcome.tree).getLastD s.tree) s s' report) ∧
    ∀ cause, outcomes.length < c.passes → s.turns = outcomes.map .ok ++ .error cause :: turns →
      ∃ s', s.attempt (c.compile tex) = (.error ⟨c.program, cause⟩, s') ∧ s'.turns = turns ∧
        s'.tree = (outcomes.map Outcome.tree).getLastD s.tree ∧
        s'.deeds = s.deeds ++ List.replicate (outcomes.length + 1) (.start (c.command tex)) := by
  constructor
  · intro hlength hturns
    have hpasses : s.attempt (c.runPasses tex c.passes 1) = _ :=
      hlength ▸ attempt_runPasses 1 hturns
    obtain ⟨tree, hcompile, hloses, hgone⟩ := exists_attempt_clearing hpasses
    refine ⟨_, _, hcompile, rfl, rfl, rfl, fun f => ?_, c.pairwise_failedPasses 1 outcomes, ?_, rfl,
      hgone, hloses, ?_⟩
    · simp only [Nat.add_comm _ 1]
      exact mem_failedPasses_iff
    · exact List.isEmpty_iff.trans failedPasses_eq_nil_iff
    · rw [← hlength]
      rfl
  · intro cause hlength hturns
    obtain ⟨left, hleft⟩ := Nat.exists_eq_add_of_lt hlength
    have hpasses := attempt_runPasses_of_error (c := c) tex left 1 hturns
    rw [← Nat.add_assoc, ← hleft] at hpasses
    refine ⟨_, Chronicle.attempt_bind_of_eq_error hpasses, rfl, rfl, ?_⟩
    rw [List.replicate_succ', ← List.append_assoc]
    rfl

/-- A deck whose passes leave more and more files. -/
def straying : List Outcome :=
  let deck : FileTree := (default : FileTree).plantFile ⟨"talks/deck.tex"⟩ .empty false
  let noted :=
    (deck.plantFile ⟨"talks/deck.aux"⟩ .empty false).plantFile ⟨"talks/deck.log"⟩ .empty false
  [{ exit := .code 1, tree := deck }, { exit := .signal, tree := noted },
    { exit := .code 0, tree :=
      (noted.plantFile ⟨"talks/deck.toc"⟩ .empty false).plantDirectory ⟨"talks/deck.out"⟩ }]

/-- Three passes of which two fail, on a host that holds on to the log; and a compiler that is gone
after the first pass. -/
theorem compile_accounts_of_straying :
    let c : Compiler := { passes := 3 }
    let tex : Path := ⟨"talks/deck.tex"⟩
    let held : Path → Option OsError :=
      fun p => if p.text = "talks/deck.log" then some .accessDenied else none
    let s : Chronicle := { turns := straying.map .ok, refusal := held }
    let missing : Chronicle := { turns := (straying.take 1).map .ok ++ [.error .notFound] }
    straying.length = c.passes ∧ s.turns = straying.map .ok ++ [] ∧
    (∃ report s', s.attempt (c.compile tex) = (.ok report, s') ∧
      c.Accounts tex straying ((straying.map Outcome.tree).getLastD s.tree) s s' report ∧
      report.failures = [⟨"lualatex", 1, some 1⟩, ⟨"lualatex", 2, none⟩] ∧
      report.removed = [⟨"talks/deck.toc"⟩, ⟨"talks/deck.aux"⟩]) ∧
    (straying.take 1).length < c.passes ∧
    missing.turns = (straying.take 1).map .ok ++ .error .notFound :: [] ∧
    ∃ s', missing.attempt (c.compile tex) = (.error ⟨"lualatex", .notFound⟩, s') ∧
      s'.deeds = List.replicate 2 (.start (c.command tex)) := by
  intro c tex held s missing
  have hlength : straying.length = c.passes := rfl
  have hturns : s.turns = straying.map .ok ++ [] := (List.append_nil _).symm
  have hlength' : (straying.take 1).length < c.passes := by decide
  obtain ⟨report, s', hrun, -, haccounts⟩ :=
    (compile_accounts c tex s straying []).1 hlength hturns
  obtain ⟨s'', hfail, -, -, hdeeds⟩ :=
    (compile_accounts c tex missing (straying.take 1) []).2 .notFound hlength' rfl
  have hreport : (s.attempt (c.compile tex)).1
      = .ok ⟨c.pdf tex, 3, [⟨"lualatex", 1, some 1⟩, ⟨"lualatex", 2, none⟩],
        [⟨"talks/deck.toc"⟩, ⟨"talks/deck.aux"⟩]⟩ := by decide +kernel
  rw [hrun] at hreport
  obtain rfl := Except.ok.inj hreport
  exact ⟨hlength, hturns, ⟨_, s', hrun, haccounts, rfl, rfl⟩, hlength', rfl, s'', hfail, hdeeds⟩

end Compiler

end PlotDeck

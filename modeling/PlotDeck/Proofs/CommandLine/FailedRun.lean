import PlotDeck.CommandLine.Run
import PlotDeck.Proofs.Compare.Slides

/-!
# Runs that fail on their input

A run fails **on its input** if it cannot use what it was given: the description of a deck, the
directories of a comparison, the template of the front matter, or a slide that no layout has room
for. Such a failure comes before the documents are written, so it leaves the files as they were,
with one exception: a comparison saves the description of its deck before it looks at the template
and at the slides. What such a run leaves is told by `CommandLine.tree_of_input_error`.
-/

namespace PlotDeck

open World

variable {w w' : World} {e : RunError}

/-! ### Errors of the input -/

-- What comes of a run on given input can be computed and compared.
deriving instance DecidableEq for RunError

/-- The errors of what a run was given. -/
inductive RunError.IsOfInput : RunError → Prop
  /-- The description of the deck is at fault. -/
  | deck (e : DeckError) : IsOfInput (.deck e)
  /-- There is nothing to compare. -/
  | compare (e : CompareError) : IsOfInput (.compare e)
  /-- A slide has no layout. -/
  | layout (e : LayoutError) : IsOfInput (.layout e)
  /-- The template cannot be read. -/
  | template (p : Path) (cause : OsError) : IsOfInput (.file (.read p cause))

/-- Whatever the action does, an error of the input leaves the tree as it was. -/
def SparesTree {α : Type} (x : ExceptT RunError (StateM World) α) : Prop :=
  ∀ (w : World) (e : RunError) (w' : World),
    w.attempt x = (.error e, w') → e.IsOfInput → w'.tree = w.tree

/-- None of the errors of the action is one of the input. -/
abbrev NoInputError {α : Type} (x : ExceptT RunError (StateM World) α) : Prop :=
  ErrorsAmong (fun e => ¬e.IsOfInput) x

section Sequence

variable {α β : Type} {x : ExceptT RunError (StateM World) α}
  {f : α → ExceptT RunError (StateM World) β}

theorem sparesTree_of_leaves (h : Leaves tree x.run) : SparesTree x := by
  intro w e w' hrun _
  have htree := h.attempt w
  rwa [hrun] at htree

/-- What comes after an action that leaves the tree may fail on the input. -/
theorem SparesTree.after (hx : Leaves tree x.run) (hf : ∀ a, SparesTree (f a)) :
    SparesTree (x >>= f) := by
  intro w e w' hrun hinput
  obtain hrun | ⟨a, w₁, hx₁, hrun⟩ := attempt_bind_eq_error_iff.1 hrun
  · exact sparesTree_of_leaves hx w e w' hrun hinput
  · have htree := hx.attempt w
    rw [hx₁] at htree
    exact (hf a w₁ e w' hrun hinput).trans htree

/-- What comes before actions that do not fail on the input may do so. -/
theorem SparesTree.before (hx : SparesTree x) (hf : ∀ a, NoInputError (f a)) :
    SparesTree (x >>= f) := by
  intro w e w' hrun hinput
  obtain hrun | ⟨a, w₁, -, hrun⟩ := attempt_bind_eq_error_iff.1 hrun
  · exact hx w e w' hrun hinput
  · exact absurd hinput (hf a w₁ e w' hrun)

end Sequence

/-! ### Reading the input -/

/-- A deck is loaded without any change. -/
theorem Deck.leaves_load {ν : Type} {view : World → ν} (p : Path) :
    Leaves view (Deck.load p : ExceptT DeckError _ _).run :=
  Leaves.run_bind (fun _ => rfl) fun content => by
    change Leaves view (pure (Deck.parse (Format.ofPath p) content))
    exact leaves_pure _

/-- A report on a fault is printed, and nothing else is done. -/
theorem Deck.leaves_tree_loadReporting (p : Path) :
    Leaves tree (Deck.loadReporting p : ExceptT RunError _ _).run := by
  rw [loadReporting]
  change Leaves tree ((Deck.load p).run >>= _)
  refine (leaves_load p).bind fun r => ?_
  cases r with
  | ok d => exact leaves_pure _
  | error e =>
    dsimp only
    split
    · refine Leaves.bind (fun _ => rfl) fun source => ?_
      split
      · exact Leaves.bind (fun _ => rfl) fun _ => leaves_pure _
      · exact leaves_pure _
    · exact leaves_pure _

/-! ### Making documents -/

theorem Documents.errorsAmong_write (d : Documents) (o : OutputPaths) :
    ErrorsAmong FileError.IsWrite (d.write o) :=
  (o.body.errorsAmong_writeText d.body).bind fun _ => o.main.errorsAmong_writeText d.main

/-- An error of writing is none of the input. -/
theorem not_isOfInput_of_isWrite {cause : FileError} (h : cause.IsWrite) :
    ¬(RunError.file cause).IsOfInput := by
  intro hinput
  cases hinput
  exact h

/-- Slides are laid out before anything is written. -/
theorem Deck.sparesTree_make (d : Deck) (o : OutputPaths) (options : RenderOptions) :
    SparesTree (d.make o options) := by
  refine (sparesTree_of_leaves (leaves_pure _)).before fun documents => ?_
  have hwrite : NoInputError ((documents.write o).adapt .file) :=
    (documents.errorsAmong_write o).adapt fun _ => not_isOfInput_of_isWrite
  exact hwrite.bind fun _ => errorsAmong_pure _

/-- Nothing that comes after the documents are written fails on the input. -/
theorem Deck.sparesTree_build (d : Deck) (o : OutputPaths) (b : BuildOptions) (nonstop : Bool) :
    SparesTree (d.build o b nonstop) := by
  have hview : NoInputError
      (if b.view then do let _ ← ExceptT.lift (openViewer o.pdf) else pure ()) := by
    split
    · exact (errorsAmong_lift _).bind fun _ => errorsAmong_pure _
    · exact errorsAmong_pure _
  have hstart : NoInputError (((b.compilerFor o nonstop).compile o.main).adapt .start) := by
    refine ErrorsAmong.adapt (P := fun _ => True) (fun _ _ _ _ => trivial) fun e _ hinput => ?_
    cases hinput
  have hpost : NoInputError (do
      if b.typeset then
        let _ ← ((b.compilerFor o nonstop).compile o.main).adapt .start
      if b.view then
        let _ ← ExceptT.lift (openViewer o.pdf)) := by
    by_cases htypeset : b.typeset
    · simp only [htypeset, if_true]
      exact hstart.bind fun _ => hview
    · simp only [htypeset]
      exact hview
  have hmake := fun template =>
    (d.sparesTree_make o (b.renderOptions template)).before fun _ => hpost
  rw [build]
  split
  · next p _ =>
    refine SparesTree.after (p.leaves_readText.run_adapt _) fun text => ?_
    exact SparesTree.after (leaves_pure _) hmake
  · exact SparesTree.after (leaves_pure _) hmake

/-! ### Whole runs -/

/-- The description that a request saves, with its path: that of a comparison, if there is a deck to
describe. -/
def Request.saved? (w : World) : Request → Option (Path × String)
  | .compare output comparison true _ =>
    match (w.attempt comparison.deck).1 with
    | .ok d => some (output.withExtension "json", Json.printDeck d)
    | .error _ => none
  | _ => none

/-- Where a comparison can fail: there is no deck, or its description cannot be saved, or its
documents cannot be made. -/
theorem Request.attempt_compare_eq_error {output : Path} {c : Comparison} {save : Bool}
    {options : BuildOptions} (h : w.attempt (compare output c save options).run = (.error e, w')) :
    (∃ cause, w.attempt c.deck = (.error cause, w) ∧ e = .compare cause ∧ w' = w) ∨
      ∃ d, w.attempt c.deck = (.ok d, w) ∧
        ((save = false ∧ w.attempt (d.build (.ofConfig output) options true) = (.error e, w')) ∨
          (save = true ∧ ∃ cause, e = .file cause ∧
            w.attempt ((output.withExtension "json").writeText (Json.printDeck d))
              = (.error cause, w')) ∨
          (save = true ∧ ∃ w₁,
            w.attempt ((output.withExtension "json").writeText (Json.printDeck d)) = (.ok (), w₁) ∧
            w₁.attempt (d.build (.ofConfig output) options true) = (.error e, w'))) := by
  have hview : (w.attempt c.deck).2 = w := (c.leaves_deck : Leaves id _).attempt w
  rw [run] at h
  obtain hdeck | ⟨d, w₁, hdeck, hrest⟩ := attempt_bind_eq_error_iff.1 h
  · obtain ⟨cause, hcause, rfl⟩ := attempt_adapt_eq_error_iff.1 hdeck
    obtain rfl : w' = w := by rwa [hcause] at hview
    exact .inl ⟨cause, hcause, rfl, rfl⟩
  · have hdeck := attempt_adapt_eq_ok_iff.1 hdeck
    obtain rfl : w₁ = w := by rwa [hdeck] at hview
    refine .inr ⟨d, hdeck, ?_⟩
    cases save with
    | false => exact .inl ⟨rfl, hrest⟩
    | true =>
      obtain hwrite | ⟨_, w₂, hwrite, hbuild⟩ := attempt_bind_eq_error_iff.1 hrest
      · obtain ⟨cause, hcause, rfl⟩ := attempt_adapt_eq_error_iff.1 hwrite
        exact .inr (.inl ⟨rfl, cause, rfl, hcause⟩)
      · exact .inr (.inr ⟨rfl, w₂, attempt_adapt_eq_ok_iff.1 hwrite, hbuild⟩)

/-- A request that saves nothing and fails on its input leaves the tree as it was. -/
theorem Request.tree_of_saved?_eq_none {request : Request} (hsaved : request.saved? w = none)
    (h : w.attempt request.run = (.error e, w')) (hinput : e.IsOfInput) : w'.tree = w.tree := by
  cases request with
  | make config options =>
    have hspares : SparesTree (Request.make config options).run :=
      .after (Deck.leaves_tree_loadReporting config) fun d => d.sparesTree_build _ _ _
    exact hspares w e w' h hinput
  | compare output c save options =>
    obtain ⟨_, -, -, rfl⟩ | ⟨d, hdeck, hrest⟩ := attempt_compare_eq_error h
    · rfl
    · obtain ⟨-, hbuild⟩ | ⟨rfl, -⟩ | ⟨rfl, -⟩ := hrest
      · exact d.sparesTree_build _ _ _ w e w' hbuild hinput
      · simp [saved?, hdeck] at hsaved
      · simp [saved?, hdeck] at hsaved

/-- A request that saves a description and fails on its input leaves that description and nothing
else. -/
theorem Request.tree_of_saved?_eq_some {request : Request} {p : Path} {text : String}
    (hsaved : request.saved? w = some (p, text))
    (h : w.attempt request.run = (.error e, w')) (hinput : e.IsOfInput) :
    ∃ w₁, w.attempt (p.writeText text) = (.ok (), w₁) ∧ w'.tree = w₁.tree := by
  cases request with
  | make config options => cases hsaved
  | compare output c save options =>
    cases save with
    | false => cases hsaved
    | true =>
      obtain ⟨_, hdeck, -⟩ | ⟨d, hdeck, hrest⟩ := attempt_compare_eq_error h
      · simp [saved?, hdeck] at hsaved
      · obtain ⟨rfl, rfl⟩ : output.withExtension "json" = p ∧ Json.printDeck d = text := by
          simpa [saved?, hdeck] using hsaved
        obtain ⟨hsave, -⟩ | ⟨-, cause, rfl, hwrite⟩ | ⟨-, w₁, hwrite, hbuild⟩ := hrest
        · cases hsave
        · have hcause := Path.errorsAmong_writeText _ _ w cause w' hwrite
          exact absurd hinput (not_isOfInput_of_isWrite hcause)
        · exact ⟨w₁, hwrite, d.sparesTree_build _ _ _ w₁ e w' hbuild hinput⟩

namespace CommandLine

/-- A request that fails is answered with exit code 1, and nothing more is done to the tree. -/
theorem run_of_error {args : List String} {request : Request} (hparse : parse args = .ok request)
    (hrun : w.attempt request.run = (.error e, w')) :
    (run args : StateM World Nat) w
      = (1, { w' with err := w'.err ++ ("Error: " ++ e.message ++ "\n") }) := by
  rw [run, hparse]
  change StateT.run (request.run.run >>= _) w = _
  rw [StateT.run_bind]
  change Id.run (w.attempt request.run >>= _) = _
  rw [hrun]
  rfl

/-- **A run that fails on its input**, whatever the command line and the world: it ends with exit
code 1, and every file and directory is as it was, except that a comparison with a deck to save has
saved its description. That description is read back, and nothing else is changed. -/
theorem tree_of_input_error (args : List String) (w : World) (request : Request) (e : RunError)
    (hparse : parse args = .ok request) (hfails : (w.attempt request.run).1 = .error e)
    (hinput : e.IsOfInput) :
    ((run args : StateM World Nat) w).1 = 1 ∧
    (request.saved? w = none → ((run args : StateM World Nat) w).2.tree = w.tree) ∧
    (∀ p text, request.saved? w = some (p, text) →
      ∃ w₁, w.attempt (p.writeText text) = (.ok (), w₁) ∧
        ((run args : StateM World Nat) w).2.tree = w₁.tree ∧ w₁.tree.readText p = .ok text) := by
  obtain ⟨w', hrun⟩ := exists_attempt_eq hfails
  rw [run_of_error hparse hrun]
  refine ⟨rfl, fun hsaved => ?_, fun p text hsaved => ?_⟩
  · change w'.tree = w.tree
    exact request.tree_of_saved?_eq_none hsaved hrun hinput
  · obtain ⟨w₁, hwrite, htree⟩ := request.tree_of_saved?_eq_some hsaved hrun hinput
    exact ⟨w₁, hwrite, htree, Path.readText_of_writeText hwrite⟩

/-- A comparison whose template is not there. -/
theorem tree_of_input_error_missing_template :
    let args := ["compare", "q.pdf", "--dir", "a", "--plot", "p.pdf", "--template", "t.tex"]
    ((run args : StateM World Nat) {}).1 = 1 ∧
      ((run args : StateM World Nat) {}).2.tree = ({} : World).tree := by
  obtain ⟨hcode, htree, -⟩ := tree_of_input_error
    ["compare", "q.pdf", "--dir", "a", "--plot", "p.pdf", "--template", "t.tex"] {}
    (.compare ⟨"q.pdf"⟩ { dirs := [⟨"a"⟩], plots := .named ["p.pdf"] } false
      { template := some ⟨"t.tex"⟩ })
    (.file (.read ⟨"t.tex"⟩ .notFound)) (by decide +kernel) (by decide +kernel) (.template _ _)
  exact ⟨hcode, htree rfl⟩

/-- A comparison of more directories than a slide has room for, which saves its description. -/
def crowdedComparison : List String :=
  ["compare", "q.pdf", "--dir", "a", "--dir", "b", "--dir", "c", "--dir", "d", "--dir", "e",
    "--dir", "f", "--dir", "g", "--dir", "h", "--dir", "i", "--dir", "j", "--dir", "k",
    "--plot", "p.pdf", "--save-config", "--no-compile"]

/-- A run that fails on its input can leave a file that was not there before. -/
theorem tree_changed_by_crowdedComparison :
    ¬∀ (args : List String) (w : World) (request : Request) (e : RunError),
      parse args = .ok request → (w.attempt request.run).1 = .error e → e.IsOfInput →
      ((run args : StateM World Nat) w).2.tree = w.tree := by
  intro h
  have htree := h crowdedComparison {}
    (.compare ⟨"q.pdf"⟩
      { dirs := ["a", "b", "c", "d", "e", "f", "g", "h", "i", "j", "k"].map Path.mk
        plots := .named ["p.pdf"] } true { typeset := false })
    (.layout (.inSlide 1 "p.pdf" (.unsupported 11 10))) (by decide +kernel) (by decide +kernel)
    (.layout _)
  have hfile : ((run crowdedComparison : StateM World Nat) {}).2.tree.isFile ⟨"q.json"⟩ = true := by
    decide +kernel
  have hnone : ({} : World).tree.isFile ⟨"q.json"⟩ = false := by decide +kernel
  rw [htree, hnone] at hfile
  cases hfile

end CommandLine

end PlotDeck

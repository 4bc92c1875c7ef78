import PlotDeck.Proofs.CommandLine.FailedRun
import PlotDeck.Proofs.Json.Deck
import PlotDeck.Proofs.Path.Outputs

/-!
# Saved comparisons

A comparison can save the description of its deck next to its outputs. If it does so, a run that
makes the deck of that description does what the comparison did after saving it: it builds the same
deck with the same outputs (`Request.saved_comparison`). Nothing is saved where the output ends in a
name of two dots and an extension.
-/

namespace PlotDeck

open World PlotDeck.Path

variable {w w' : World} {d : Deck} {p : Path}

/-! ### Loading what was saved -/

theorem Deck.attempt_load (hformat : Format.ofPath p = .json) (h : Reads p (Json.printDeck d) w) :
    w.attempt (Deck.load p) = (.ok d, w) := by
  have hparse : Deck.parse .json (Json.printDeck d) = .ok d := by
    rw [parse, Json.printDeck, String.toList_ofList, Json.readDeck_print]
    rfl
  have hread : w.attempt
      (ExceptT.mk do return (← Host.readText p).mapError (DeckError.unreadable p))
      = (.ok (Json.printDeck d), w) := by
    change ((w.tree.readText p).mapError _, w) = _
    rw [h]
    rfl
  rw [load, attempt_bind, hread, hformat]
  change ((Deck.parse .json (Json.printDeck d)), w) = _
  rw [hparse]

/-- Making a deck that can be loaded is building it. -/
theorem Request.attempt_make (h : w.attempt (Deck.load p) = (.ok d, w)) (b : BuildOptions) :
    w.attempt (Request.make p b).run = w.attempt (d.build (.ofConfig p) b b.nonstop) := by
  have hload : w.attempt (Deck.loadReporting p) = (.ok d, w) := by
    rw [Deck.loadReporting]
    change StateT.run ((Deck.load p).run >>= _) w = _
    rw [StateT.run_bind]
    change Id.run (w.attempt (Deck.load p) >>= _) = _
    rw [h]
    rfl
  rw [run, attempt_bind, hload]

/-- A comparison that saves its description goes on to build its deck. -/
theorem Request.attempt_compare_save {output : Path} {c : Comparison} {b : BuildOptions}
    (hdeck : (w.attempt c.deck).1 = .ok d)
    (hsave : w.attempt ((output.withExtension "json").writeText (Json.printDeck d))
      = (.ok (), w')) :
    w.attempt (Request.compare output c true b).run
      = w'.attempt (d.build (.ofConfig output) b true) := by
  have hworld : (w.attempt c.deck).2 = w := (c.leaves_deck : Leaves id _).attempt w
  have hfound : w.attempt (c.deck.adapt RunError.compare) = (.ok d, w) :=
    attempt_adapt_eq_ok_iff.2 (Prod.ext hdeck hworld)
  rw [run, attempt_bind, hfound]
  change w.attempt (_ >>= fun _ => d.build (.ofConfig output) b true) = _
  rw [attempt_bind, attempt_adapt_eq_ok_iff.2 hsave]

/-! ### Making documents -/

/-- Both documents are in their files. -/
def Documents.StandAt (docs : Documents) (o : OutputPaths) (w : World) : Prop :=
  Reads o.body docs.body w ∧ Reads o.main docs.main w

section Make

variable {o : OutputPaths} {docs : Documents} {options : RenderOptions} {text : String}

/-- Making documents is rendering them and writing the body and then the main document. -/
theorem Deck.attempt_make_eq_ok_iff :
    w.attempt (d.make o options) = (.ok docs, w') ↔
      d.render o.bodyReference options = .ok docs ∧
        ∃ w₁, w.attempt (o.body.writeText docs.body) = (.ok (), w₁) ∧
          w₁.attempt (o.main.writeText docs.main) = (.ok (), w') := by
  have hrender : ∀ docs' w₁, w.attempt (ExceptT.mk (pure
      ((d.render o.bodyReference options).mapError RunError.layout))) = (.ok docs', w₁) ↔
        d.render o.bodyReference options = .ok docs' ∧ w₁ = w := by
    intro docs' w₁
    change ((d.render o.bodyReference options).mapError RunError.layout, w) = _ ↔ _
    rw [Prod.ext_iff, mapError_eq_ok_iff, eq_comm (a := w₁)]
  have hdone : ∀ docs' w₁, w₁.attempt (pure docs' : ExceptT RunError _ _) = (.ok docs, w') ↔
      docs' = docs ∧ w₁ = w' := by
    intro docs' w₁
    change (Except.ok docs', w₁) = _ ↔ _
    simp
  rw [make, attempt_bind_eq_ok_iff]
  simp only [hrender, attempt_bind_eq_ok_iff, attempt_adapt_eq_ok_iff, Documents.write, hdone]
  constructor
  · rintro ⟨_, _, ⟨hdocs, rfl⟩, _, _, ⟨_, w₁, hbody, hmain⟩, rfl, rfl⟩
    exact ⟨hdocs, w₁, hbody, hmain⟩
  · rintro ⟨hdocs, w₁, hbody, hmain⟩
    exact ⟨docs, w, ⟨hdocs, rfl⟩, (), w', ⟨(), w₁, hbody, hmain⟩, rfl, rfl⟩

/-- The documents that were made are in their files, which can be written again. -/
theorem Deck.standAt_of_make (hapart : o.body.Apart o.main)
    (h : w.attempt (d.make o options) = (.ok docs, w')) :
    docs.StandAt o w' ∧ Written o.body w' ∧ Written o.main w' := by
  obtain ⟨-, w₁, hbody, hmain⟩ := attempt_make_eq_ok_iff.1 h
  have hread : Reads o.body docs.body w' :=
    (preserves_writeText hapart docs.main).of_attempt hmain (readText_of_writeText hbody)
  have hwritten : Written o.body w' :=
    (preserves_written_writeText docs.main).of_attempt hmain (written_of_writeText hbody)
  exact ⟨⟨hread, readText_of_writeText hmain⟩, hwritten, written_of_writeText hmain⟩

/-- Where both files can be written, the documents are made if the deck can be rendered. -/
theorem Deck.exists_attempt_make (hrender : d.render o.bodyReference options = .ok docs)
    (hbody : Written o.body w) (hmain : Written o.main w) :
    ∃ w', w.attempt (d.make o options) = (.ok docs, w') := by
  obtain ⟨w₁, hfirst⟩ := hbody.exists_attempt_writeText docs.body
  have hmain : Written o.main w₁ :=
    (preserves_written_writeText docs.body).of_attempt hfirst hmain
  obtain ⟨w₂, hsecond⟩ := hmain.exists_attempt_writeText docs.main
  exact ⟨w₂, attempt_make_eq_ok_iff.2 ⟨hrender, w₁, hfirst, hsecond⟩⟩

/-- Writing documents keeps what a file apart from them reads as. -/
theorem Documents.preserves_write (hbody : p.Apart o.body) (hmain : p.Apart o.main)
    (docs : Documents) : Preserves (Reads p text) (docs.write o).run :=
  (preserves_writeText hbody docs.body).run_bind fun _ => preserves_writeText hmain docs.main

/-- Making the documents keeps what a file apart from them reads as. -/
theorem Deck.preserves_make (hbody : p.Apart o.body) (hmain : p.Apart o.main) :
    Preserves (Reads p text) (d.make o options).run :=
  Preserves.run_bind (preserves_pure _) fun docs =>
    Preserves.run_bind ((docs.preserves_write hbody hmain).run_adapt _) fun _ => preserves_pure _

end Make

/-- Whether a run makes the documents and nothing else, from the built-in front matter. -/
def BuildOptions.IsPlain (b : BuildOptions) : Prop :=
  b.template = none ∧ b.typeset = false ∧ b.view = false

/-- Such a run builds a deck by making its documents. -/
theorem Deck.attempt_build_of_isPlain {o : OutputPaths} {b : BuildOptions} (hb : b.IsPlain)
    (nonstop : Bool) :
    w.attempt (d.build o b nonstop) = (.ok (), w') ↔
      ∃ docs, w.attempt (d.make o (b.renderOptions none)) = (.ok docs, w') := by
  obtain ⟨htemplate, htypeset, hview⟩ := hb
  rw [build, htemplate, htypeset, hview]
  change w.attempt (d.make o (b.renderOptions none) >>= fun _ => pure ()) = (.ok (), w') ↔ _
  rw [attempt_bind_eq_ok_iff]
  refine exists_congr fun docs => ?_
  constructor
  · rintro ⟨w₁, hmake, hrest⟩
    obtain rfl : w₁ = w' := (Prod.ext_iff.1 hrest).2
    exact hmake
  · exact fun hmake => ⟨w', hmake, rfl⟩

/-! ### Making the deck again -/

/-- The file that a comparison saves the description of its deck in. -/
abbrev Path.description (output : Path) : Path := output.withExtension "json"

section Again

variable {output : Path} {b : BuildOptions}

/-- The outputs next to the description are those of the comparison, unless there is none. -/
theorem OutputPaths.ofConfig_description_eq_iff (hname : output.fileName?.isSome) :
    ofConfig output.description = ofConfig output ↔ ¬output.EndsInDots :=
  ofConfig_withExtension_eq_iff hname (by decide) (by decide) (by decide)

/-- Runs that agree on the outline render alike from the same template. -/
theorem BuildOptions.renderOptions_eq {b b' : BuildOptions} (h : b'.outline = b.outline)
    (frontTemplate : Option String) :
    b'.renderOptions frontTemplate = b.renderOptions frontTemplate := by
  rw [renderOptions, renderOptions, h]

/-- A comparison that saved its description and made its documents left all three files, and making
the deck of the description again leaves the same documents. -/
theorem Request.make_after_compare (hname : output.fileName?.isSome) (hdots : ¬output.EndsInDots)
    (hb : b.IsPlain) (hsaved : Reads output.description (Json.printDeck d) w)
    (h : w.attempt (d.build (.ofConfig output) b true) = (.ok (), w')) :
    ∃ docs, d.render (OutputPaths.ofConfig output).bodyReference (b.renderOptions none) = .ok docs ∧
      docs.StandAt (.ofConfig output) w' ∧ Reads output.description (Json.printDeck d) w' ∧
      ∀ b' : BuildOptions, b'.IsPlain → b'.outline = b.outline →
        ∃ w₁, w'.attempt (Request.make output.description b').run = (.ok (), w₁) ∧
          docs.StandAt (.ofConfig output) w₁ := by
  have hapart : (OutputPaths.ofConfig output).body.Apart (OutputPaths.ofConfig output).main :=
    OutputPaths.apart_body_main _ (OutputPaths.slash_not_mem_fileStem output)
  obtain ⟨hfromBody, hfromMain⟩ := OutputPaths.apart_withExtension hname hdots
    (by decide : "json" ≠ "") (by decide)
  -- the run that is over: its documents stand, and the description is as it was saved
  obtain ⟨docs, hmake⟩ := (Deck.attempt_build_of_isPlain hb true).1 h
  obtain ⟨hrender, -⟩ := Deck.attempt_make_eq_ok_iff.1 hmake
  obtain ⟨hstand, hbody, hmain⟩ := Deck.standAt_of_make hapart hmake
  have hkept : Reads output.description (Json.printDeck d) w' :=
    (Deck.preserves_make hfromBody hfromMain).of_attempt hmake hsaved
  refine ⟨docs, hrender, hstand, hkept, fun b' hb' houtline => ?_⟩
  -- the run to come: both files have been written, so they can be written again
  obtain ⟨w₁, hagain⟩ : ∃ w₁,
      w'.attempt (d.make (.ofConfig output) (b'.renderOptions none)) = (.ok docs, w₁) := by
    rw [BuildOptions.renderOptions_eq houtline]
    exact Deck.exists_attempt_make hrender hbody hmain
  refine ⟨w₁, ?_, (Deck.standAt_of_make hapart hagain).1⟩
  have hload := Deck.attempt_load (Format.ofPath_withExtension_json hname hdots) hkept
  rw [Request.attempt_make hload, (OutputPaths.ofConfig_description_eq_iff hname).2 hdots]
  exact (Deck.attempt_build_of_isPlain hb' _).2 ⟨docs, hagain⟩

end Again

/-- **A saved comparison**, for every output with a file name. The outputs next to the description
are those of the comparison exactly if the output does not end in a name of two dots and an
extension; if it does, no description can be saved. A comparison that has saved the description of
its deck goes on to build that deck. The description is read as JSON and gives the deck, so making
it builds the same deck with the same outputs and, under the same choice of the outline, renders the
same documents. After a comparison that only makes the documents, making the deck again leaves the
same documents. -/
theorem Request.saved_comparison (output : Path) (hname : output.fileName?.isSome) :
    (OutputPaths.ofConfig output.description = .ofConfig output ↔ ¬output.EndsInDots) ∧
    (output.EndsInDots → ∀ (w : World) (text : String) (w' : World),
      w.attempt (output.description.writeText text) ≠ (.ok (), w')) ∧
    ∀ (w w₁ : World) (c : Comparison) (d : Deck) (b : BuildOptions),
      (w.attempt c.deck).1 = .ok d →
      w.attempt (output.description.writeText (Json.printDeck d)) = (.ok (), w₁) →
      ¬output.EndsInDots ∧ Format.ofPath output.description = .json ∧
      w.attempt (compare output c true b).run = w₁.attempt (d.build (.ofConfig output) b true) ∧
      Reads output.description (Json.printDeck d) w₁ ∧
      (∀ w', Reads output.description (Json.printDeck d) w' →
        w'.attempt (Deck.load output.description) = (.ok d, w') ∧
        ∀ b' : BuildOptions, w'.attempt (make output.description b').run
          = w'.attempt (d.build (.ofConfig output) b' b'.nonstop)) ∧
      (∀ b' : BuildOptions, b'.outline = b.outline →
        d.render (OutputPaths.ofConfig output.description).bodyReference (b'.renderOptions none)
          = d.render (OutputPaths.ofConfig output).bodyReference (b.renderOptions none)) ∧
      (b.IsPlain → ∀ w₂, w.attempt (compare output c true b).run = (.ok (), w₂) →
        ∃ docs, d.render (OutputPaths.ofConfig output).bodyReference (b.renderOptions none)
            = .ok docs ∧
          docs.StandAt (.ofConfig output) w₂ ∧ Reads output.description (Json.printDeck d) w₂ ∧
          ∀ b' : BuildOptions, b'.IsPlain → b'.outline = b.outline →
            ∃ w₃, w₂.attempt (make output.description b').run = (.ok (), w₃) ∧
              docs.StandAt (.ofConfig output) w₃) := by
  have hsame := OutputPaths.ofConfig_description_eq_iff hname
  have hnone : output.EndsInDots → ∀ (w : World) (text : String) (w' : World),
      w.attempt (output.description.writeText text) ≠ (.ok (), w') := by
    intro hdots w text w'
    obtain ⟨base, name, -, -, -, hnew⟩ := exists_endsIn_withExtension_dots hname hdots "json"
    exact hnew.attempt_writeText_up text
  refine ⟨hsame, hnone, fun w w₁ c d b hdeck hsave => ?_⟩
  have hdots : ¬output.EndsInDots := fun hdots => hnone hdots w _ w₁ hsave
  have hformat := Format.ofPath_withExtension_json hname hdots
  have hcompare := attempt_compare_save (b := b) hdeck hsave
  have hsaved : Reads output.description (Json.printDeck d) w₁ := readText_of_writeText hsave
  refine ⟨hdots, hformat, hcompare, hsaved, fun w' hread => ?_, fun b' houtline => ?_,
    fun hb w₂ hrun => ?_⟩
  · have hload := Deck.attempt_load hformat hread
    refine ⟨hload, fun b' => ?_⟩
    rw [attempt_make hload, hsame.2 hdots]
  · rw [hsame.2 hdots, BuildOptions.renderOptions_eq houtline]
  · rw [hcompare] at hrun
    exact make_after_compare hname hdots hb hsaved hrun

/-- One plot of one directory. -/
def onePlot : Comparison := { dirs := [⟨"a"⟩], plots := .named ["p.pdf"] }

/-- A comparison with dots in the name of its output, in a directory that is not there yet. -/
theorem Request.saved_comparison_in_new_directory :
    ∃ (docs : Documents) (w₂ w₃ : World),
      ({} : World).attempt (compare ⟨"out/v1.2.pdf"⟩ onePlot true { typeset := false }).run
        = (.ok (), w₂) ∧
      docs.StandAt (.ofConfig ⟨"out/v1.2.pdf"⟩) w₂ ∧
      w₂.attempt (make ⟨"out/v1.2.json"⟩ { typeset := false }).run = (.ok (), w₃) ∧
      docs.StandAt (.ofConfig ⟨"out/v1.2.pdf"⟩) w₃ := by
  have hdescription : Path.description ⟨"out/v1.2.pdf"⟩ = ⟨"out/v1.2.json"⟩ := by decide +kernel
  have hdeck : (({} : World).attempt onePlot.deck).1 = .ok (onePlot.deckOf ["p.pdf"]) := by
    decide +kernel
  obtain ⟨w₁, hsave⟩ : ∃ w₁, ({} : World).attempt ((Path.description ⟨"out/v1.2.pdf"⟩).writeText
      (Json.printDeck (onePlot.deckOf ["p.pdf"]))) = (.ok (), w₁) :=
    exists_attempt_eq (by decide +kernel)
  obtain ⟨w₂, hrun⟩ : ∃ w₂, ({} : World).attempt
      (compare ⟨"out/v1.2.pdf"⟩ onePlot true { typeset := false }).run = (.ok (), w₂) :=
    exists_attempt_eq (by decide +kernel)
  obtain ⟨-, -, hsaved⟩ := saved_comparison ⟨"out/v1.2.pdf"⟩ (by decide +kernel)
  obtain ⟨-, -, -, -, -, -, hplain⟩ := hsaved {} w₁ onePlot _ { typeset := false } hdeck hsave
  obtain ⟨docs, -, hstand, -, hagain⟩ := hplain ⟨rfl, rfl, rfl⟩ w₂ hrun
  obtain ⟨w₃, hmake, hstand₃⟩ := hagain { typeset := false } ⟨rfl, rfl, rfl⟩ rfl
  exact ⟨docs, w₂, w₃, hrun, hstand, hdescription ▸ hmake, hstand₃⟩

/-- Next to an output such as `..pdf` the description is not saved, and the outputs would not be
those of the comparison. -/
theorem Request.description_not_saved :
    let args := ["compare", "..pdf", "--dir", "a", "--plot", "p.pdf", "--save-config",
      "--no-compile"]
    (⟨"..pdf"⟩ : Path).fileName? = some "..pdf" ∧
    CommandLine.parse args = .ok (.compare ⟨"..pdf"⟩ onePlot true { typeset := false }) ∧
    (({} : World).attempt onePlot.deck).1 = .ok (onePlot.deckOf ["p.pdf"]) ∧
    OutputPaths.ofConfig (Path.description ⟨"..pdf"⟩) ≠ .ofConfig ⟨"..pdf"⟩ ∧
    ((CommandLine.run args : StateM World Nat) {}).1 = 1 ∧
    ((CommandLine.run args : StateM World Nat) {}).2.err
      = "Error: failed to write ..: Is a directory (os error 21)\n" := by
  decide +kernel

end PlotDeck

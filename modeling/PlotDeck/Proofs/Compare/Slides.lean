import PlotDeck.Compare.Comparison
import PlotDeck.Proofs.Document.Body
import PlotDeck.Proofs.Host.World

/-!
# The slides of a comparison

A comparison with names to compare becomes one slide for each name, in order, with one plot for each
directory, in order (`Comparison.attempt_deck`, `Comparison.getElem?_panels`). All its slides have
equally many plots, so either all of them can be laid out or the first one is refused
(`Comparison.slides_of_hasNames`).
-/

namespace PlotDeck

open World

variable {w : World}

/-! ### Reading the directories -/

section Leaves

variable {ν : Type} {view : World → ν}

/-- Directories are listed without any change. -/
theorem Compare.leaves_discover (dirs : List Path) (ext : String) :
    Leaves view (Compare.discover dirs ext : ExceptT FileError _ _).run := by
  have hdir : ∀ dir, Leaves view (plotsIn (bareExtension ext) dir : ExceptT FileError _ _).run :=
    fun dir => Leaves.run_bind (fun _ => rfl) fun _ => leaves_pure _
  exact (Leaves.run_mapM hdir dirs).run_bind fun _ => leaves_pure _

theorem Comparison.leaves_names (c : Comparison) :
    Leaves view (c.names : ExceptT CompareError _ _).run := by
  rw [names]
  split
  · exact leaves_pure _
  · refine ((Compare.leaves_discover c.dirs _).run_adapt _).run_bind fun found => ?_
    split <;> exact leaves_pure _

/-- A comparison finds its deck without any change. -/
theorem Comparison.leaves_deck (c : Comparison) :
    Leaves view (c.deck : ExceptT CompareError _ _).run := by
  rw [deck]
  split
  · exact leaves_pure _
  · split
    · exact leaves_pure _
    · exact c.leaves_names.run_bind fun _ => leaves_pure _

end Leaves

/-! ### Room in the built-in layouts -/

theorem Registry.maxCapacity_builtin : Registry.builtin.maxCapacity = 10 := rfl

/-- The built-in layouts have room for ten plots. -/
theorem Registry.hasRoom_builtin_iff {n : Nat} : Registry.builtin.HasRoom n ↔ n ≤ 10 := by
  constructor
  · rintro ⟨c, hc, hn⟩
    have hall : ∀ c ∈ Registry.builtin.capacities, c ≤ 10 := by decide
    exact Nat.le_trans hn (hall c hc)
  · intro hn
    exact ⟨10, by decide, hn⟩

namespace Comparison

variable {c : Comparison} {names : List String}

/-! ### The plots of a slide -/

theorem length_panels (name : String) (dirs : List Path) (labels : List String) :
    (panels name dirs labels).length = dirs.length := by
  induction dirs generalizing labels with
  | nil => rfl
  | cons dir dirs ih => rw [panels, List.length_cons, ih, List.length_cons]

/-- The plot of a directory has its label, or none beyond the last label. -/
theorem getElem?_panels (name : String) (dirs : List Path) (labels : List String) (i : Nat) :
    (panels name dirs labels)[i]?
      = dirs[i]?.map fun dir => ⟨(dir.join ⟨name⟩).text, labels[i]?.getD ""⟩ := by
  induction dirs generalizing labels i with
  | nil => rfl
  | cons dir dirs ih =>
    rw [panels]
    cases i with
    | zero => cases labels <;> rfl
    | succ i =>
      rw [List.getElem?_cons_succ, ih, List.getElem?_cons_succ]
      cases labels <;> rfl

/-! ### The deck -/

/-- These are the names to compare: they are given, or they are found and there are some. -/
def HasNames (w : World) (c : Comparison) (names : List String) : Prop :=
  c.plots = .named names ∨ ∃ ext, c.plots = .withExtension ext ∧
    (w.attempt (Compare.discover c.dirs ext)).1 = .ok names ∧ names ≠ []

theorem attempt_names (h : HasNames w c names) : w.attempt c.names = (.ok names, w) := by
  have hworld : (w.attempt c.names).2 = w := (c.leaves_names : Leaves id _).attempt w
  refine Prod.ext ?_ hworld
  rcases h with hgiven | ⟨ext, hext, hfound, hne⟩
  · rw [Comparison.names, hgiven]
    rfl
  · rw [Comparison.names, hext, attempt_bind, attempt_adapt, hfound]
    have hsome : names.isEmpty = false := by simpa using hne
    simp only [Except.mapError, hsome, Bool.false_eq_true, if_false]
    rfl

/-- A comparison finds its names and makes a deck of them. -/
theorem attempt_deck (hdirs : c.dirs ≠ []) (hlabels : c.labels.length ≤ c.dirs.length)
    (h : HasNames w c names) : w.attempt c.deck = (.ok (c.deckOf names), w) := by
  have hsome : c.dirs.isEmpty = false := by simpa using hdirs
  rw [deck, hsome, if_neg Bool.false_ne_true, if_neg (Nat.not_lt.2 hlabels)]
  change w.attempt (c.names >>= fun names => pure (c.deckOf names)) = _
  rw [attempt_bind, attempt_names h]
  rfl

theorem titles_deckOf (c : Comparison) (names : List String) :
    (c.deckOf names).slides.map Slide.title = names := by
  rw [deckOf, List.map_map]
  exact List.map_id names

/-- All slides fit if there is room for as many plots as there are directories. -/
theorem fits_deckOf {r : Registry} (names : List String) :
    (∀ s ∈ (c.deckOf names).slides, r.Fits s) ↔ names = [] ∨ r.HasRoom c.dirs.length := by
  have hfits : ∀ name, r.Fits (c.slide name) ↔ r.HasRoom c.dirs.length := fun name => by
    rw [Registry.Fits, slide, length_panels]
  rw [deckOf, List.forall_mem_map]
  simp only [hfits]
  cases names with
  | nil => simp
  | cons name names =>
    exact ⟨fun h => .inr (h name List.mem_cons_self), fun h _ _ => h.resolve_left (by simp)⟩

/-- With too many directories the first slide is refused. -/
theorem render_deckOf_of_crowded {name : String} {names : List String} (h : 10 < c.dirs.length)
    (reference : String) (o : RenderOptions) :
    (c.deckOf (name :: names)).render reference o
      = .error (.inSlide 1 name (.unsupported c.dirs.length 10)) := by
  have hroom : ¬Registry.builtin.Fits (c.slide name) := by
    rw [Registry.Fits, slide, length_panels, Registry.hasRoom_builtin_iff]
    omega
  have hbody : Registry.builtin.renderBody (c.deckOf (name :: names)).slides
      = .error (.inSlide 1 name (.unsupported c.dirs.length 10)) := by
    refine Registry.renderBody_eq_error_iff.2
      ⟨[], c.slide name, names.map c.slide, rfl, by simp, hroom, ?_⟩
    rw [Registry.maxCapacity_builtin, slide, length_panels]
    rfl
  rw [Deck.render_eq, hbody]
  rfl

/-- **From a comparison to slides**: with directories, no more labels than directories, and names to
compare, the deck has one slide for each name, in order, and on it the plot of each directory, in
order, under the label of the directory. It can be rendered exactly if there are no slides or at
most ten directories; then its body holds the texts of the slides in order, and otherwise the answer
is the error of the first slide. -/
theorem slides_of_hasNames (w : World) (c : Comparison) (names : List String) (hdirs : c.dirs ≠ [])
    (hlabels : c.labels.length ≤ c.dirs.length) (hnames : HasNames w c names) :
    ∃ d : Deck, w.attempt c.deck = (.ok d, w) ∧
      d.frontPage = { title := c.title } ∧ d.outline = true ∧
      d.slides.map Slide.title = names ∧
      (∀ s ∈ d.slides, s.sectionTitle = none ∧ s.topText = none ∧ s.bottomText = none ∧
        ∀ i : Nat, s.plots[i]? = c.dirs[i]?.map fun dir =>
          ⟨(dir.join ⟨s.title⟩).text, c.labels[i]?.getD ""⟩) ∧
      ∀ reference o,
        ((∃ docs, d.render reference o = .ok docs) ↔ names = [] ∨ c.dirs.length ≤ 10) ∧
        (∀ docs, d.render reference o = .ok docs → ∃ blocks,
          List.Forall₂ (fun s block => ∃ l, Registry.builtin.resolve s.plots.length = .ok l ∧
            l.render s = .ok block) d.slides blocks ∧ docs.body = String.join blocks) ∧
        ∀ name rest, names = name :: rest → 10 < c.dirs.length →
          d.render reference o = .error (.inSlide 1 name (.unsupported c.dirs.length 10)) := by
  refine ⟨c.deckOf names, attempt_deck hdirs hlabels hnames, rfl, rfl, titles_deckOf c names, ?_,
    fun reference o => ⟨?_, ?_, ?_⟩⟩
  · intro s hs
    obtain ⟨name, -, rfl⟩ := List.mem_map.1 hs
    exact ⟨rfl, rfl, rfl, getElem?_panels name c.dirs c.labels⟩
  · rw [Deck.exists_render_iff, Registry.exists_renderBody_iff, fits_deckOf,
      Registry.hasRoom_builtin_iff]
  · exact fun docs hdocs => Registry.renderBody_eq_ok_iff.1 (Deck.renderBody_of_render hdocs)
  · rintro name rest rfl hcrowded
    exact render_deckOf_of_crowded hcrowded reference o

/-- Two directories with two plots in common. -/
def twoDirectories : World where
  tree := {
    home := []
    items := [(["a"], .directory), (["b"], .directory), (["p2.pdf", "a"], .file ⟨#[]⟩ false),
      (["p10.pdf", "a"], .file ⟨#[]⟩ false), (["q.pdf", "a"], .file ⟨#[]⟩ false),
      (["p10.pdf", "b"], .file ⟨#[]⟩ false), (["p2.pdf", "b"], .file ⟨#[]⟩ false)]
    distinct := by decide
    settled := fun names h hne => absurd (List.suffix_nil.1 h) hne }

theorem hasNames_twoDirectories :
    HasNames twoDirectories { dirs := [⟨"a"⟩, ⟨"b"⟩], labels := ["A"] }
    ["p2.pdf", "p10.pdf"] := by
  have hplots : (twoDirectories.attempt ([⟨"a"⟩, ⟨"b"⟩].mapM (Compare.plotsIn "pdf"))).1
      = .ok [["p2.pdf", "p10.pdf", "q.pdf"], ["p10.pdf", "p2.pdf"]] := by decide +kernel
  have hcommon : Compare.common [["p2.pdf", "p10.pdf", "q.pdf"], ["p10.pdf", "p2.pdf"]]
      = ["p2.pdf", "p10.pdf"] := by decide
  have hsorted : Compare.sortNatural ["p2.pdf", "p10.pdf"] = ["p2.pdf", "p10.pdf"] :=
    List.mergeSort_of_pairwise (by decide +kernel)
  have hbare : Compare.bareExtension "pdf" = "pdf" := by decide +kernel
  refine .inr ⟨"pdf", rfl, ?_, by simp⟩
  rw [Compare.discover, hbare, attempt_bind]
  generalize twoDirectories.attempt ([⟨"a"⟩, ⟨"b"⟩].mapM (Compare.plotsIn "pdf"))
    = outcome at hplots
  obtain ⟨_, w⟩ := outcome
  obtain rfl := hplots
  exact congrArg Except.ok ((congrArg Compare.sortNatural hcommon).trans hsorted)

/-- Names that are found, and one label for two directories. -/
theorem slides_of_found_names :
    ∃ d docs, twoDirectories.attempt
        (Comparison.deck { dirs := [⟨"a"⟩, ⟨"b"⟩], labels := ["A"] }) = (.ok d, twoDirectories) ∧
      d.slides.map Slide.title = ["p2.pdf", "p10.pdf"] ∧ d.render "b.tex" {} = .ok docs := by
  obtain ⟨d, hdeck, -, -, htitles, -, hrender⟩ :=
    slides_of_hasNames twoDirectories { dirs := [⟨"a"⟩, ⟨"b"⟩], labels := ["A"] }
      ["p2.pdf", "p10.pdf"] (by decide) (by decide) hasNames_twoDirectories
  obtain ⟨docs, hdocs⟩ := (hrender "b.tex" {}).1.2 (.inr (by decide))
  exact ⟨d, docs, hdeck, htitles, hdocs⟩

end Comparison

end PlotDeck

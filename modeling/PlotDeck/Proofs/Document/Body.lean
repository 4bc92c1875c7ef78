import Mathlib.Data.List.Forall2
import PlotDeck.Document
import PlotDeck.Proofs.Layout.Registry
import PlotDeck.Proofs.Template.Kept

/-!
# The body of a deck

The **block** of a slide is its text in the layout that its number of plots is resolved to. A slide
has a block exactly when the registry has room for its plots (`Registry.exists_isBlock_iff`): a
layout that was resolved never refuses the slide. So slides are rendered to their blocks until the
first one without room (`Registry.renderSlides_eq_ok_iff`, `Registry.renderSlides_eq_error_iff`).
-/

namespace PlotDeck.Registry

variable {r : Registry} {s : Slide} {slides : List Slide} {index : Nat}

/-! ### One slide -/

/-- The text is that of the slide in the layout that the slide is resolved to. -/
def IsBlock (r : Registry) (s : Slide) (text : String) : Prop :=
  ∃ l, r.resolve s.plots.length = .ok l ∧ l.render s = .ok text

/-- The registry has room for the plots of the slide. -/
def Fits (r : Registry) (s : Slide) : Prop := r.HasRoom s.plots.length

/-- A layout that was resolved renders the slide. -/
theorem exists_render_of_resolve {l : Layout} (h : r.resolve s.plots.length = .ok l) :
    ∃ text, l.render s = .ok text := by
  obtain ⟨text, htext, -⟩ := Layout.exists_render (le_capacity_of_resolve h)
  exact ⟨text, htext⟩

theorem exists_isBlock_iff : (∃ text, r.IsBlock s text) ↔ r.Fits s := by
  rw [Fits, ← exists_resolve_iff]
  constructor
  · rintro ⟨_, l, hl, -⟩
    exact ⟨l, hl⟩
  · rintro ⟨l, hl⟩
    obtain ⟨text, htext⟩ := exists_render_of_resolve hl
    exact ⟨text, l, hl, htext⟩

theorem renderSlide_eq_ok_iff {text : String} : r.renderSlide s = .ok text ↔ r.IsBlock s text := by
  rw [renderSlide, IsBlock]
  cases r.resolve s.plots.length <;> simp [bind, Except.bind]

theorem renderSlide_of_not_fits (h : ¬r.Fits s) :
    r.renderSlide s = .error (.unsupported s.plots.length r.maxCapacity) := by
  rw [renderSlide, resolve_of_not_hasRoom h]
  rfl

/-! ### Slides in order -/

theorem renderSlides_cons_of_isBlock {text : String} (h : r.IsBlock s text) :
    r.renderSlides index (s :: slides)
      = (r.renderSlides (index + 1) slides).map (text :: ·) := by
  rw [renderSlides, renderSlide_eq_ok_iff.2 h]
  cases r.renderSlides (index + 1) slides <;> rfl

theorem renderSlides_cons_of_not_fits (h : ¬r.Fits s) :
    r.renderSlides index (s :: slides)
      = .error (.inSlide index s.title (.unsupported s.plots.length r.maxCapacity)) := by
  rw [renderSlides, renderSlide_of_not_fits h]
  rfl

/-- Slides are rendered to their blocks, one for one. -/
theorem renderSlides_eq_ok_iff {texts : List String} :
    r.renderSlides index slides = .ok texts ↔ List.Forall₂ r.IsBlock slides texts := by
  induction slides generalizing index texts with
  | nil => simp [renderSlides, eq_comm]
  | cons s slides ih =>
    rw [List.forall₂_cons_left_iff]
    by_cases hs : r.Fits s
    · obtain ⟨text, htext⟩ := exists_isBlock_iff.2 hs
      have hunique : ∀ {t}, r.IsBlock s t → t = text := fun ht =>
        Except.ok.inj ((renderSlide_eq_ok_iff.2 ht).symm.trans (renderSlide_eq_ok_iff.2 htext))
      rw [renderSlides_cons_of_isBlock htext]
      constructor
      · intro h
        cases hrest : r.renderSlides (index + 1) slides with
        | error e => simp [hrest, Except.map] at h
        | ok rest =>
          obtain rfl : text :: rest = texts := by simpa [hrest, Except.map] using h
          exact ⟨text, rest, htext, ih.1 hrest, rfl⟩
      · rintro ⟨t, rest, ht, hrest, rfl⟩
        rw [ih.2 hrest, hunique ht]
        rfl
    · rw [renderSlides_cons_of_not_fits hs]
      constructor
      · intro h
        cases h
      · rintro ⟨t, rest, ht, -⟩
        exact absurd (exists_isBlock_iff.1 ⟨t, ht⟩) hs

/-- Slides are refused where the first one without room is, whatever follows it. -/
theorem renderSlides_eq_error_iff {e : LayoutError} :
    r.renderSlides index slides = .error e ↔
      ∃ before s after, slides = before ++ s :: after ∧ (∀ t ∈ before, r.Fits t) ∧ ¬r.Fits s ∧
        e = .inSlide (index + before.length) s.title
          (.unsupported s.plots.length r.maxCapacity) := by
  induction slides generalizing index with
  | nil => simp [renderSlides]
  | cons s slides ih =>
    by_cases hs : r.Fits s
    · obtain ⟨text, htext⟩ := exists_isBlock_iff.2 hs
      have hmap : (r.renderSlides (index + 1) slides).map (text :: ·) = .error e ↔
          r.renderSlides (index + 1) slides = .error e := by
        cases r.renderSlides (index + 1) slides <;> simp [Except.map]
      rw [renderSlides_cons_of_isBlock htext, hmap, ih]
      constructor
      · rintro ⟨before, t, after, rfl, hbefore, ht, rfl⟩
        refine ⟨s :: before, t, after, rfl, List.forall_mem_cons.2 ⟨hs, hbefore⟩, ht, ?_⟩
        rw [List.length_cons, Nat.add_right_comm, Nat.add_assoc]
      · rintro ⟨before, t, after, heq, hbefore, ht, rfl⟩
        cases before with
        | nil =>
          obtain ⟨rfl, -⟩ := List.cons.inj heq
          exact absurd hs ht
        | cons _ before =>
          obtain ⟨rfl, rfl⟩ := List.cons.inj heq
          refine ⟨before, t, after, rfl, (List.forall_mem_cons.1 hbefore).2, ht, ?_⟩
          rw [List.length_cons, Nat.add_right_comm, Nat.add_assoc]
    · rw [renderSlides_cons_of_not_fits hs]
      constructor
      · intro h
        exact ⟨[], s, slides, rfl, by simp, hs, (Except.error.inj h).symm⟩
      · rintro ⟨before, t, after, heq, hbefore, ht, rfl⟩
        cases before with
        | nil =>
          obtain ⟨rfl, -⟩ := List.cons.inj heq
          rfl
        | cons u before =>
          obtain ⟨rfl, -⟩ := List.cons.inj heq
          exact absurd (hbefore _ List.mem_cons_self) hs

/-! ### The body -/

theorem renderBody_eq_ok_iff {body : String} :
    r.renderBody slides = .ok body ↔
      ∃ blocks, List.Forall₂ r.IsBlock slides blocks ∧ body = String.join blocks := by
  have hmap : r.renderBody slides = .ok body ↔
      ∃ blocks, r.renderSlides 1 slides = .ok blocks ∧ body = String.join blocks := by
    rw [renderBody]
    cases r.renderSlides 1 slides <;> simp [Except.map, eq_comm]
  simp only [hmap, renderSlides_eq_ok_iff]

theorem renderBody_eq_error_iff {e : LayoutError} :
    r.renderBody slides = .error e ↔
      ∃ before s after, slides = before ++ s :: after ∧ (∀ t ∈ before, r.Fits t) ∧ ¬r.Fits s ∧
        e = .inSlide (before.length + 1) s.title (.unsupported s.plots.length r.maxCapacity) := by
  have hmap : r.renderBody slides = .error e ↔ r.renderSlides 1 slides = .error e := by
    rw [renderBody]
    cases r.renderSlides 1 slides <;> simp [Except.map]
  rw [hmap, renderSlides_eq_error_iff]
  simp only [Nat.add_comm 1]

/-- All slides have blocks exactly when all of them fit. -/
theorem exists_blocks_iff :
    (∃ blocks, List.Forall₂ r.IsBlock slides blocks) ↔ ∀ s ∈ slides, r.Fits s := by
  induction slides with
  | nil => simp
  | cons s slides ih =>
    rw [List.forall_mem_cons, ← ih, ← exists_isBlock_iff]
    constructor
    · rintro ⟨_, hblocks⟩
      obtain ⟨text, rest, htext, hrest, -⟩ := List.forall₂_cons_left_iff.1 hblocks
      exact ⟨⟨text, htext⟩, rest, hrest⟩
    · rintro ⟨⟨text, htext⟩, rest, hrest⟩
      exact ⟨text :: rest, .cons htext hrest⟩

theorem exists_renderBody_iff :
    (∃ body, r.renderBody slides = .ok body) ↔ ∀ s ∈ slides, r.Fits s := by
  rw [← exists_blocks_iff]
  constructor
  · rintro ⟨body, hbody⟩
    obtain ⟨blocks, hblocks, -⟩ := renderBody_eq_ok_iff.1 hbody
    exact ⟨blocks, hblocks⟩
  · rintro ⟨blocks, hblocks⟩
    exact ⟨String.join blocks, renderBody_eq_ok_iff.2 ⟨blocks, hblocks, rfl⟩⟩

/-- **The body of a deck**, whatever the registry: it is there exactly when every slide has at most
as many plots as some registered layout has room for, and then it is made of the blocks of the
slides, in order and with nothing between them. Otherwise the answer names the first slide without
room, its number of plots and the largest number there is room for. No slide is refused by the
layout that it was resolved to. -/
theorem renderBody_blocks_or_first_refusal (r : Registry) (slides : List Slide) :
    ((∃ body, r.renderBody slides = .ok body) ↔
      ∀ s ∈ slides, ∃ c ∈ r.capacities, s.plots.length ≤ c) ∧
    (∀ body, r.renderBody slides = .ok body ↔
      ∃ blocks, List.Forall₂ (fun s block => ∃ l, r.resolve s.plots.length = .ok l ∧
        l.render s = .ok block) slides blocks ∧ body = String.join blocks) ∧
    (∀ e, r.renderBody slides = .error e ↔
      ∃ before s after, slides = before ++ s :: after ∧
        (∀ t ∈ before, ∃ c ∈ r.capacities, t.plots.length ≤ c) ∧
        (∀ c ∈ r.capacities, c < s.plots.length) ∧
        e = .inSlide (before.length + 1) s.title (.unsupported s.plots.length r.maxCapacity)) ∧
    (∀ s l, r.resolve s.plots.length = .ok l →
      s.plots.length ≤ l.capacity ∧ ∃ block, l.render s = .ok block) := by
  refine ⟨exists_renderBody_iff, fun body => renderBody_eq_ok_iff, fun e => ?_, fun s l hl => ?_⟩
  · rw [renderBody_eq_error_iff]
    simp only [Fits, HasRoom, not_exists, not_and, Nat.not_le]
  · exact ⟨le_capacity_of_resolve hl, exists_render_of_resolve hl⟩

end PlotDeck.Registry

namespace PlotDeck

variable {d : Deck} {reference : String} {o : RenderOptions}

/-- The documents of a deck are its body and the front matter that refers to it. -/
theorem Deck.render_eq (d : Deck) (reference : String) (o : RenderOptions) :
    d.render reference o = (Registry.builtin.renderBody d.slides).map fun body =>
      { main := FrontMatter.fill ⟨d.frontPage, reference, o.outline.getD d.outline⟩
          (o.frontTemplate.getD builtinFrontMatter)
        body } := by
  rw [render]
  cases Registry.builtin.renderBody d.slides <;> rfl

theorem Deck.exists_render_iff :
    (∃ docs, d.render reference o = .ok docs) ↔
      ∃ body, Registry.builtin.renderBody d.slides = .ok body := by
  rw [render_eq]
  cases Registry.builtin.renderBody d.slides <;> simp [Except.map]

theorem Deck.renderBody_of_render {docs : Documents} (h : d.render reference o = .ok docs) :
    Registry.builtin.renderBody d.slides = .ok docs.body := by
  rw [render_eq] at h
  cases hbody : Registry.builtin.renderBody d.slides with
  | error e =>
    rw [hbody] at h
    cases h
  | ok body =>
    rw [hbody] at h
    cases h
    rfl

end PlotDeck

import PlotDeck.Template.Render

/-!
# The values of a slide

Every value that a slide puts in place of a slot is one of its strings, or empty where a text is
left out (`Slide.value?_cases`), so what holds of all strings of a slide holds of all values.
-/

namespace PlotDeck

open Template

namespace Slide

/-- All strings of a slide. -/
def strings (s : Slide) : List String :=
  s.title :: (s.sectionTitle.toList ++ s.topText.toList ++ s.bottomText.toList ++
    s.plots.flatMap fun p => [p.path, p.caption])

/-- The plot with this number, counted from 1. -/
def plot? (s : Slide) (k : Nat) : Option Plot := s.plots[k - 1]?

/-- The text above the plots, empty where there is none. -/
def top (s : Slide) : List Char := (s.topText.getD "").toList

/-- The text below the plots, empty where there is none. -/
def bottom (s : Slide) : List Char := (s.bottomText.getD "").toList

variable (s : Slide)

theorem value?_plotCaption {k : Nat} (hk : 0 < k) :
    s.value? (.plotCaption k) = (s.plot? k).map (·.caption.toList) := by
  obtain ⟨k, rfl⟩ := Nat.exists_eq_succ_of_ne_zero (Nat.ne_of_gt hk)
  rfl

theorem value?_plotPath {k : Nat} (hk : 0 < k) :
    s.value? (.plotPath k) = (s.plot? k).map (·.path.toList) := by
  obtain ⟨k, rfl⟩ := Nat.exists_eq_succ_of_ne_zero (Nat.ne_of_gt hk)
  rfl

theorem plot?_eq_none_iff {k : Nat} (hk : 0 < k) : s.plot? k = none ↔ s.plots.length < k := by
  rw [plot?, List.getElem?_eq_none_iff]
  omega

variable {s}

/-- A plot after a missing one is missing. -/
theorem plot?_eq_none_of_lt {k k' : Nat} (hk : 0 < k) (hlt : k < k') (h : s.plot? k = none) :
    s.plot? k' = none := by
  rw [plot?_eq_none_iff s hk] at h
  exact (plot?_eq_none_iff s (by omega)).2 (by omega)

/-! ### Strings -/

theorem heading_mem_strings : s.heading ∈ s.strings := by
  cases h : s.sectionTitle <;> simp [heading, strings, h]

theorem top_cases : s.top = [] ∨ ∃ t ∈ s.strings, s.top = t.toList := by
  cases h : s.topText with
  | none => simp [top, h]
  | some t => exact .inr ⟨t, by simp [strings, h], by simp [top, h]⟩

theorem bottom_cases : s.bottom = [] ∨ ∃ t ∈ s.strings, s.bottom = t.toList := by
  cases h : s.bottomText with
  | none => simp [bottom, h]
  | some t => exact .inr ⟨t, by simp [strings, h], by simp [bottom, h]⟩

theorem caption_mem_strings {p : Plot} (hp : p ∈ s.plots) : p.caption ∈ s.strings := by
  refine List.mem_cons_of_mem _ (List.mem_append_right _ (List.mem_flatMap.2 ⟨p, hp, ?_⟩))
  simp

theorem path_mem_strings {p : Plot} (hp : p ∈ s.plots) : p.path ∈ s.strings := by
  refine List.mem_cons_of_mem _ (List.mem_append_right _ (List.mem_flatMap.2 ⟨p, hp, ?_⟩))
  simp

theorem mem_plots_of_plot? {k : Nat} {p : Plot} (h : s.plot? k = some p) : p ∈ s.plots :=
  List.mem_of_getElem? h

/-- A value is empty or one of the slide's strings. -/
theorem value?_cases {slot : Slot} {v : List Char} (h : s.value? slot = some v) :
    v = [] ∨ ∃ t ∈ s.strings, v = t.toList := by
  match slot with
  | .slideTitle => exact .inr ⟨s.title, List.mem_cons_self, (Option.some.inj h).symm⟩
  | .slideSection => exact .inr ⟨s.heading, heading_mem_strings, (Option.some.inj h).symm⟩
  | .topText => exact Option.some.inj h ▸ top_cases
  | .bottomText => exact Option.some.inj h ▸ bottom_cases
  | .plotCaption (k + 1) =>
    obtain ⟨p, hp, rfl⟩ := Option.map_eq_some_iff.1 h
    exact .inr ⟨p.caption, caption_mem_strings (List.mem_of_getElem? hp), rfl⟩
  | .plotPath (k + 1) =>
    obtain ⟨p, hp, rfl⟩ := Option.map_eq_some_iff.1 h
    exact .inr ⟨p.path, path_mem_strings (List.mem_of_getElem? hp), rfl⟩

end Slide

end PlotDeck

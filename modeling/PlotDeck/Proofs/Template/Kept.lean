import PlotDeck.Proofs.Template.Collapse
import PlotDeck.Template.Render

/-!
# The kept lines of a layout

What a slide is rendered to, said line by line: `Layout.keptLines` are the numbers of the template
lines that stay, and the rendered text is made of these lines, filled (`Layout.render_eq_ok_iff`).
-/

namespace PlotDeck

open Template

namespace Layout

variable {l : Layout} {s : Slide}

/-- The numbers of the template lines that stay, in order. -/
def keptLines (l : Layout) (s : Slide) : List Nat :=
  pick (keeps false (l.fill s)) (List.range (l.fill s).length)

/-- The text of a template line once it has been filled. -/
def lineText (l : Layout) (s : Slide) (i : Nat) : List Char :=
  ((l.fill s)[i]?.map Line.text).getD []

/-- The kept texts are the texts of the kept lines. -/
theorem pick_texts (l : Layout) (s : Slide) :
    pick (keeps false (l.fill s)) ((l.fill s).map Line.text)
      = (l.keptLines s).map (l.lineText s) := by
  rw [map_text_eq_map_textAt, pick_map]
  rfl

/-- A slide with room for its plots renders to its kept lines, and no other slide renders. -/
theorem render_eq_ok_iff {out : String} :
    l.render s = .ok out ↔ s.plots.length ≤ l.capacity ∧
      out.toList = ((l.keptLines s).map (l.lineText s)).flatten := by
  rw [render, collapse_eq_flatten_pick, pick_texts, ← Nat.not_lt]
  split
  · simp [*]
  · simp [*, ← String.toList_inj, eq_comm]

/-- A slide with room for its plots renders. -/
theorem exists_render (h : s.plots.length ≤ l.capacity) : ∃ out, l.render s = .ok out ∧
    out.toList = ((l.keptLines s).map (l.lineText s)).flatten :=
  ⟨String.ofList ((l.keptLines s).map (l.lineText s)).flatten,
    render_eq_ok_iff.2 ⟨h, String.toList_ofList⟩, String.toList_ofList⟩

/-- The template lines that stay, as they are before they are filled. -/
def keptSources (l : Layout) (s : Slide) : List (List Char) :=
  pick (keeps false (l.fill s)) (Text.lines l.source.toList)

/-- The rendered text is made of the template lines that stay. -/
theorem toList_of_render {out : String} (h : l.render s = .ok out) :
    out.toList = (l.keptSources s).flatMap fun line => (fillLine s.value? line).text := by
  rw [(render_eq_ok_iff.1 h).2, ← pick_texts, List.flatMap_def, keptSources, ← pick_map, fill,
    List.map_map]
  rfl

theorem mem_lines_of_mem_keptSources {line : List Char} (h : line ∈ l.keptSources s) :
    line ∈ Text.lines l.source.toList :=
  mem_of_mem_pick h

/-- A template line stays if it is filled to neither a line to be removed nor a line break. -/
theorem mem_keptSources {line : List Char} (hline : line ∈ Text.lines l.source.toList)
    (hremoved : (fillLine s.value? line).isRemoved = false)
    (hbreak : (fillLine s.value? line).isBreak = false) : line ∈ l.keptSources s := by
  obtain ⟨i, hi⟩ := List.mem_iff_getElem?.1 hline
  have hfill : (l.fill s)[i]? = some (fillLine s.value? line) := by simp [fill, hi]
  exact mem_pick_iff.2 ⟨i, keeps_getElem?_of_kept hfill hremoved hbreak false, hi⟩

theorem keptLines_eq_iff_keeps {s' : Slide} :
    l.keptLines s = l.keptLines s' ↔ keeps false (l.fill s) = keeps false (l.fill s') := by
  have hlength : (l.fill s').length = (l.fill s).length := by simp [fill]
  rw [keptLines, keptLines, hlength]
  exact ⟨pick_range_inj (by simp) (by simp [hlength]), fun h => by rw [h]⟩

end Layout

end PlotDeck

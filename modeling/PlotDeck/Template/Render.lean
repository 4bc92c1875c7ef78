import PlotDeck.Deck.Basic
import PlotDeck.Layout.Basic
import PlotDeck.Template.Line
import PlotDeck.Text.Lines

/-!
# Rendering a slide

A slide is rendered by filling its layout with it and collapsing what the erased slots leave behind.
A slide with more plots than the layout has room for is refused, so no plot is ever lost silently.
-/

namespace PlotDeck

open Template

/-- The text that a slide puts in place of a slot. Slots of the front page have none, and neither
have plots that the slide does not hold. -/
def Slide.value? (s : Slide) : Slot → Option (List Char)
  | .slideTitle => some s.title.toList
  | .slideSection => some s.heading.toList
  | .topText => some (s.topText.getD "").toList
  | .bottomText => some (s.bottomText.getD "").toList
  | .plotCaption (k + 1) => s.plots[k]?.map (·.caption.toList)
  | .plotPath (k + 1) => s.plots[k]?.map (·.path.toList)
  | _ => none

/-- The lines of a layout, filled with a slide. -/
def Layout.fill (l : Layout) (s : Slide) : List Line :=
  (Text.lines l.source.toList).map (fillLine s.value?)

/-- The text of a slide in a layout. -/
def Layout.render (l : Layout) (s : Slide) : Except LayoutError String :=
  if l.capacity < s.plots.length then .error (.unsupported s.plots.length l.capacity)
  else .ok (String.ofList (collapse (l.fill s)))

end PlotDeck

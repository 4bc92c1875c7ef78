import PlotDeck.Layout.Basic
import PlotDeck.Template.Slot

/-!
# Built-in layouts

The built-in layouts hold 0, 1, 2, 3, 4, 6, 8 and 10 plots. Up to three plots stand in one row;
above that they stand in a **grid** of two rows, which is typeset column by column: with `m`
columns, column `c` holds plots `c` and `c + m`. Each plot is a **panel**, its caption above its
image with a line break in between.

The lines of a built-in layout are `Row`s, text around at most one slot, so that what a slide makes
of a layout can be said row by row.
-/

namespace PlotDeck

open Template

/-- A line of a built-in layout: text around at most one slot. -/
structure Row where
  /-- The text before the slot; the whole line where there is none. -/
  before : String
  /-- What the slide puts between. -/
  slot : Option Slot := none
  /-- The text behind the slot. -/
  after : String := ""
deriving DecidableEq, Repr

/-- The placeholder of a slot, as a template writes it. -/
def Row.placeholder : Option Slot → String
  | some slot => "@" ++ String.ofList slot.name
  | none => ""

/-- The line as the template has it. -/
def Row.source (r : Row) : String := r.before ++ Row.placeholder r.slot ++ r.after

namespace Builtin

/-- A row without slots. -/
def plain (text : String) : Row := ⟨text, none, ""⟩

/-- The line that opens an environment. -/
def opening (name argument : String) : Row := plain ("\\begin\x7b" ++ name ++ "\x7d" ++ argument)

/-- The line that closes an environment. -/
def closing (name : String) : Row := plain ("\\end\x7b" ++ name ++ "\x7d")

/-- The lines of an environment around other lines. -/
def environment (name argument : String) (body : List Row) : List Row :=
  opening name argument :: body ++ [closing name]

/-- Centred lines. -/
def centred (body : List Row) : List Row := environment "center" "" body

/-- The line break between the lines of a column. -/
def lineBreak : Row := plain "\\\\"

/-- The line with the caption of plot `k`. -/
def caption (k : Nat) : Row := ⟨"", some (.plotCaption k), ""⟩

/-- What stands before the path of an image of this width. -/
def imageOpening (width : String) : String := "\\includegraphics[width=" ++ width ++ "]\x7b"

/-- The line with the image of plot `k`. -/
def image (width : String) (k : Nat) : Row := ⟨imageOpening width, some (.plotPath k), "\x7d"⟩

/-- The caption and the image of plot `k`. -/
def panel (width : String) (k : Nat) : List Row := [caption k, lineBreak, image width k]

/-- Centred panels, one above the other; a line break may follow the last. -/
def stack (width : String) (plots : List Nat) (breakAfter : Bool) : List Row :=
  centred ((List.intercalate [lineBreak] (plots.map (panel width))) ++
    if breakAfter then [lineBreak] else [])

/-- A column that holds panels as wide as itself. -/
def column (width : String) (plots : List Nat) (breakAfter : Bool) : List Row :=
  environment "column" ("\x7b" ++ width ++ "\\textwidth\x7d") (stack "\\textwidth" plots breakAfter)

/-- The plots of each column of a grid with `columns` columns and `rows` rows. -/
def gridColumns (columns rows : Nat) : List (List Nat) :=
  (List.range columns).map fun c => (List.range rows).map fun r => c + 1 + r * columns

/-- A grid of columns with an empty line between them. -/
def grid (width : String) (columns rows : Nat) : List Row :=
  environment "columns" ""
    (List.intercalate [plain ""]
      ((gridColumns columns rows).map fun plots => column width plots false))

/-- The heading of the section. -/
def sectionHeading : Row := ⟨"\\section\x7b", some .slideSection, "\x7d"⟩

/-- The line that opens the frame, with its title. -/
def frameOpening : Row := ⟨"\\begin\x7bframe\x7d\x7b", some .slideTitle, "\x7d"⟩

/-- The text above the plots. -/
def topText : Row := ⟨"", some .topText, ""⟩

/-- The text below the plots. -/
def bottomText : Row := ⟨"", some .bottomText, ""⟩

/-- What stands before the middle part of a slide. -/
def head : List Row := [plain "", sectionHeading, frameOpening, topText]

/-- What follows the middle part of a slide. -/
def foot : List Row := [bottomText, closing "frame"]

/-- The layout whose lines are these rows. -/
def ofRows (name : String) (capacity : Nat) (rows : List Row) : Layout :=
  ⟨name, capacity, String.join (rows.map (·.source ++ "\n"))⟩

/-- A layout with a frame around the middle part of a slide. -/
def frame (name : String) (capacity : Nat) (middle : List Row) : Layout :=
  ofRows name capacity (head ++ middle ++ foot)

/-- Words alone. A caption slot stands where plots would be and is never filled. -/
def zero : Layout := frame "zero_plot" 0 (centred [caption 1])

/-- One plot of half the width of the text. -/
def one : Layout := frame "one_plot" 1 (stack "0.5\\textwidth" [1] true)

/-- Two plots side by side. -/
def two : Layout :=
  frame "two_plot" 2 (environment "columns" ""
    (column "0.45" [1] true ++ [plain ""] ++ column "0.45" [2] false))

/-- Three plots side by side. -/
def three : Layout :=
  frame "three_plot" 3 (environment "columns" ""
    (column "0.33" [1] true ++ column "0.33" [2] true ++ column "0.33" [3] true))

/-- Four plots in two columns. -/
def four : Layout := frame "four_plot" 4 (grid "0.23" 2 2)

/-- Six plots in three columns. -/
def six : Layout := frame "six_plot" 6 (grid "0.22" 3 2)

/-- Eight plots in four columns. -/
def eight : Layout := frame "eight_plot" 8 (grid "0.22" 4 2)

/-- Ten plots in five columns. -/
def ten : Layout := frame "ten_plot" 10 (grid "0.18" 5 2)

/-- The built-in layouts, the smallest first. -/
def layouts : List Layout := [zero, one, two, three, four, six, eight, ten]

end Builtin

/-- The registry of the built-in layouts. -/
def Registry.builtin : Registry where
  entries := Builtin.layouts.map fun l => (l.capacity, l)
  ascending := by
    simp [Builtin.layouts, Builtin.zero, Builtin.one, Builtin.two, Builtin.three, Builtin.four,
      Builtin.six, Builtin.eight, Builtin.ten, Builtin.frame, Builtin.ofRows]

theorem Registry.layouts_builtin : builtin.layouts = Builtin.layouts := rfl

end PlotDeck

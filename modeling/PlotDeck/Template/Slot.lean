/-!
# Slots

A **slot** is a placeholder name that a renderer knows how to fill. Nine names are fixed; `PLOTk`
and `PLOTkTITLE` name the path and the caption of the `k`-th plot, `k` being a decimal number from
1 to 2^64 - 1 without leading zeros. `Slot.ofName?` reads a name and `Slot.name` writes it.
-/

namespace PlotDeck.Template

/-- What a placeholder can stand for. -/
inductive Slot where
  /-- The title of the slide. -/
  | slideTitle
  /-- The section heading of the slide. -/
  | slideSection
  /-- The text above the plots. -/
  | topText
  /-- The text below the plots. -/
  | bottomText
  /-- The title of the front page. -/
  | title
  /-- The subtitle of the front page. -/
  | subtitle
  /-- The author named on the front page. -/
  | author
  /-- The file that holds the slides. -/
  | file
  /-- The outline frame. -/
  | outline
  /-- The caption of the `k`-th plot, counted from 1. -/
  | plotCaption (k : Nat)
  /-- The path of the `k`-th plot, counted from 1. -/
  | plotPath (k : Nat)
deriving DecidableEq, Repr

namespace Slot

/-- The slots with a fixed name. -/
def fixed : List Slot :=
  [slideTitle, slideSection, topText, bottomText, title, subtitle, author, file, outline]

/-- The largest index that a plot slot can carry. -/
def maxIndex : Nat := Nat.pow 2 64 - 1

/-- The name of a slot, as written after the placeholder mark. -/
def name : Slot → List Char
  | slideTitle => "SLIDE_TITLE".toList
  | slideSection => "SLIDE_SECTION".toList
  | topText => "TOPTEXT".toList
  | bottomText => "BOTTOMTEXT".toList
  | title => "TITLE".toList
  | subtitle => "SUBTITLE".toList
  | author => "AUTHOR".toList
  | file => "FILE".toList
  | outline => "TOC".toList
  | plotPath k => "PLOT".toList ++ Nat.toDigits 10 k
  | plotCaption k => "PLOT".toList ++ Nat.toDigits 10 k ++ "TITLE".toList

/-- Reads what follows `PLOT` in the name of a plot slot: an index, and `TITLE` for a caption. -/
def ofPlotName? (t : List Char) : Option Slot :=
  let digits := t.takeWhile Char.isDigit
  let k := Nat.ofDigitChars 10 digits 0
  if digits = [] ∨ digits.head? = some '0' ∨ maxIndex < k then none
  else match t.dropWhile Char.isDigit with
    | [] => some (plotPath k)
    | ['T', 'I', 'T', 'L', 'E'] => some (plotCaption k)
    | _ => none

/-- The slot that a name denotes, if any. -/
def ofName? (t : List Char) : Option Slot :=
  match fixed.find? fun slot => slot.name == t with
  | some slot => some slot
  | none =>
    match t with
    | 'P' :: 'L' :: 'O' :: 'T' :: r => ofPlotName? r
    | _ => none

/-- Whether a slot belongs to a plot. -/
def isPlot : Slot → Bool
  | plotCaption _ | plotPath _ => true
  | _ => false

end Slot

end PlotDeck.Template

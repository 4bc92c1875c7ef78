import PlotDeck.Template.Embed
import PlotDeck.Template.Slot
import PlotDeck.Template.Token

/-!
# Filled lines

A template is filled line by line. Each known placeholder is replaced by its value, which is never
read again: a value that looks like a placeholder stays as it is. A plot slot without a value is
erased. An unfilled caption just disappears; an unfilled path takes its embed directive with it, up
to the closing brace, or marks the whole line as dropped where no directive surrounds it.
-/

namespace PlotDeck.Template

open Text (trim trimStart)

/-- A template line after it has been filled. -/
structure Line where
  /-- The text of the line. -/
  text : List Char
  /-- Whether the template line held a plot slot. -/
  heldPlot : Bool
  /-- Whether an unfilled path was found outside an embed directive. -/
  dropped : Bool
deriving DecidableEq, Repr

/-- A line that is being filled: what is written so far, and whether an embed directive has just
been cut whose closing brace is still to come. -/
structure Filling extends Line where
  /-- Whether the next token may start with the closing brace of a directive that was cut. -/
  closing : Bool
deriving DecidableEq, Repr

/-- The line before its first token. -/
def Filling.start : Filling := { text := [], heldPlot := false, dropped := false, closing := false }

namespace Filling

/-- Writes text at the end of the line. -/
def write (f : Filling) (t : List Char) : Filling :=
  { f with text := f.text ++ t, closing := false }

/-- What is left of the text behind a directive that was cut: the blanks before the closing brace go
with the brace. Text that does not start with that brace stays whole. -/
def afterClosing (t : List Char) : List Char :=
  match trimStart t with
  | '\x7d' :: r => r
  | _ => t

/-- Erases a plot path that has no value. -/
def erasePath (f : Filling) : Filling :=
  match cutEmbed? f.text with
  | some before => { f with text := before, closing := true }
  | none => { f with dropped := true, closing := false }

/-- Adds a slot to the line. -/
def addSlot (value? : Slot → Option (List Char)) (f : Filling) (slot : Slot) : Filling :=
  let f := { f with heldPlot := f.heldPlot || slot.isPlot }
  match value? slot, slot with
  | some value, _ => f.write value
  | none, .plotPath _ => f.erasePath
  | none, .plotCaption _ => f.write []
  | none, _ => f.write ('@' :: slot.name)

/-- Adds a token of the template to the line. -/
def add (value? : Slot → Option (List Char)) (f : Filling) : Token → Filling
  | .placeholder name =>
    match Slot.ofName? name with
    | some slot => f.addSlot value? slot
    | none => f.write ('@' :: name)
  | .literal t => f.write (if f.closing then afterClosing t else t)
  | .newline => f.write ['\n']

end Filling

/-- Fills one line of a template. -/
def fillLine (value? : Slot → Option (List Char)) (line : List Char) : Line :=
  ((lex line).foldl (Filling.add value?) .start).toLine

/-- A line break of its own, as it stands between two lines of a paragraph. -/
def lineBreak : List Char := ['\\', '\\']

/-- What a line that opens an environment starts with. -/
def beginMark : List Char := "\\begin\x7b".toList

/-- What a line that closes an environment starts with. -/
def endMark : List Char := "\\end\x7b".toList

namespace Line

/-- A line is **removed** when it was dropped, or when it held a plot slot and nothing is left. -/
def isRemoved (l : Line) : Bool := l.dropped || (l.heldPlot && trim l.text == [])

/-- Whether the line holds a line break and nothing else. -/
def isBreak (l : Line) : Bool := trim l.text == lineBreak

/-- Whether the line is blank. -/
def isBlank (l : Line) : Bool := trim l.text == []

/-- Whether the line opens an environment. -/
def opens (l : Line) : Bool := beginMark.isPrefixOf (trim l.text)

/-- Whether the line closes an environment. -/
def closes (l : Line) : Bool := endMark.isPrefixOf (trim l.text)

end Line

/-- What has to be known of the lines so far to decide on the next one. -/
structure Collapsing where
  /-- Whether the last kept line ends with content that a line break can separate from more. -/
  endsContent : Bool := false
  /-- A line break that is held back until the next kept line shows whether it separates
  anything. -/
  held : Option (List Char) := none
  /-- Whether a line was removed since that line break. -/
  removedSince : Bool := false
deriving DecidableEq, Repr

/-- The texts of the lines that stay. Removed lines go, and with them each line break that does not
follow content, and each that is left before the end of an environment. -/
def keptTexts : Collapsing → List Line → List (List Char)
  | s, [] => s.held.toList
  | s, l :: ls =>
    if l.isRemoved then keptTexts { s with removedSince := true } ls
    else if l.isBreak then
      if s.endsContent then
        keptTexts { endsContent := false, held := some l.text, removedSince := false } ls
      else keptTexts s ls
    else
      let held := if s.removedSince && l.closes then [] else s.held.toList
      held ++ l.text ::
        keptTexts { s with endsContent := !(l.isBlank || l.opens), held := none } ls

/-- The text that filled lines make up. -/
def collapse (ls : List Line) : List Char := (keptTexts {} ls).flatten

end PlotDeck.Template

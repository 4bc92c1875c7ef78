import PlotDeck.Deck.Error
import PlotDeck.Text.Blank
import PlotDeck.Text.Position
import PlotDeck.Text.Width

/-!
# Reports

A report shows a fault in the text where it lies: the lines that the fault touches, with line
numbers in a margin, a mark under the faulty part and the message behind the mark. A part on one
line is underlined from end to end with the message hung from its middle; of a longer part the first
and the last line are shown, tied together by a bar along the margin.
-/

namespace PlotDeck.Report

/-! ### Colours -/

/-- What a piece of a report is drawn with. -/
inductive Ink where
  /-- No colour. -/
  | plain
  /-- The colour of the fault. -/
  | fault
  /-- The colour of the margin. -/
  | margin
  /-- The colour of the margin beside lines that are not numbered. -/
  | gap
  /-- The colour of text that the fault does not touch. -/
  | dim
deriving DecidableEq, Repr

/-- The escape sequence that switches to a colour. -/
def Ink.start : Ink → List Char
  | plain => []
  | fault => "\x1b[31m".toList
  | margin => "\x1b[38;5;246m".toList
  | gap => "\x1b[38;5;240m".toList
  | dim => "\x1b[38;5;249m".toList

/-- Text in a colour. -/
def Ink.paint (ink : Ink) (t : List Char) : List Char :=
  if ink = plain then t else ink.start ++ t ++ "\x1b[0m".toList

/-- A character in a colour. -/
def Ink.char (ink : Ink) (c : Char) : List Char := ink.paint [c]

/-- Characters in a colour, each painted on its own. -/
def Ink.each (ink : Ink) (t : List Char) : List Char := t.flatMap ink.char

/-! ### Lines of the source -/

/-- A line of a source: the index of its first character, and its text with its terminator. -/
structure Line where
  /-- The index of its first character in the source. -/
  offset : Nat
  /-- Its text, with the characters that end it. -/
  text : List Char
deriving DecidableEq, Repr

namespace Line

/-- The index after the last character of a line. -/
def stop (l : Line) : Nat := l.offset + l.text.length

/-- The text that is shown of a line. -/
def shown (l : Line) : List Char := Text.trimEnd l.text

end Line

/-- Whether a character ends a line. -/
def endsLine (c : Char) : Bool :=
  ['\n', '\r', '\x0b', '\x0c', '\u0085', '\u2028', '\u2029'].contains c

/-- The texts of the lines of a source. A carriage return and a line feed end a line together. -/
def splitLines : List Char → List (List Char)
  | [] => []
  | c :: r =>
    let rest := splitLines r
    if endsLine c then
      match c, rest with
      | '\r', ['\n'] :: ls => [c, '\n'] :: ls
      | _, ls => [c] :: ls
    else match rest with
      | [] => [[c]]
      | l :: ls => (c :: l) :: ls

/-- Lines with their places, the first of which starts at `offset`. -/
def placeLines : Nat → List (List Char) → List Line
  | _, [] => []
  | offset, l :: ls => ⟨offset, l⟩ :: placeLines (offset + l.length) ls

/-- The lines of a source. An empty source has none. -/
def linesOf (source : List Char) : List Line := placeLines 0 (splitLines source)

/-- The index of the line that holds a character; the end of the source counts to its last line. -/
def lineIndex? (ls : List Line) (offset : Nat) : Option Nat :=
  match ls.getLast? with
  | none => none
  | some l => if l.stop < offset then none else some ((ls.takeWhile (·.offset ≤ offset)).length - 1)

/-! ### Drawing -/

/-- Every how many columns a tab stops. -/
def tabWidth : Nat := 4

/-- What is shown of the character in a column, and how many columns it takes. -/
def cell (column : Nat) (c : Char) : Char × Nat :=
  if c = '\t' then (' ', (column / tabWidth + 1) * tabWidth - column)
  else if Text.isBlank c then (' ', 1)
  else (c, Text.width c)

/-- The text of a line, with the characters from `start` to `stop` in the colour of the fault. -/
def drawText (l : Line) (start stop : Nat) : List Char :=
  l.shown.zipIdx.flatMap fun (c, column) =>
    let (shown, width) := cell column c
    let ink := if start ≤ l.offset + column ∧ l.offset + column < stop then Ink.fault else Ink.dim
    if Text.isBlank shown then (List.replicate width (ink.char shown)).flatten else ink.char shown

/-- The widths of the first `count` columns below a line. -/
def widths (l : Line) (count : Nat) : List Nat :=
  (List.range count).map fun column => (l.shown[column]?.map fun c => (cell column c).2).getD 1

/-- Draws columns below a line. In each column the first place gets one sign and the others
another. -/
def drawColumns (l : Line) (count : Nat) (sign : Nat → Char × Char) (ink : Nat → Ink) : List Char :=
  (widths l count).zipIdx.flatMap fun (width, column) =>
    if width = 0 then []
    else (ink column).each ((sign column).1 :: List.replicate (width - 1) (sign column).2)

/-- The part of a source that a report is about, with what is said of it. -/
structure Label where
  /-- The index of the first character. -/
  start : Nat
  /-- The index after the last character. -/
  stop : Nat
  /-- What is wrong. -/
  message : List Char
deriving DecidableEq, Repr

/-- The margin beside a line with a number. -/
def numberMargin (width index : Nat) : List Char :=
  let number := Nat.toDigits 10 (index + 1)
  ' ' :: Ink.margin.paint (List.replicate (width - number.length) ' ' ++ number ++ " │".toList) ++
    [' ']

/-- The margin beside what has no number. -/
def plainMargin (width : Nat) (bar : Char) : List Char :=
  ' ' :: Ink.gap.paint (List.replicate (width + 1) ' ' ++ [bar]) ++ [' ']

/-- The rows for a label on one line. -/
def drawInline (width index : Nat) (l : Line) (label : Label) : List Char :=
  if l.stop < label.stop then plainMargin width '│' ++ ['\n']
  else
    let hang := (label.start + label.stop) / 2 - l.offset
    let count := label.stop - l.offset + 2
    let marked (column : Nat) := label.start ≤ l.offset + column && l.offset + column < label.stop
    let underline (column : Nat) : Char × Char :=
      if column = hang then ('┬', '─') else if marked column then ('─', '─') else (' ', ' ')
    let arrow (column : Nat) : Char × Char :=
      if column = hang then ('╰', '─') else if hang < column then ('─', '─') else (' ', ' ')
    numberMargin width index ++ drawText l label.start label.stop ++ ['\n'] ++
      plainMargin width '│' ++
      drawColumns l count underline (fun column => if marked column then .fault else .plain) ++
      ['\n'] ++ plainMargin width '│' ++
      drawColumns l count arrow (fun column => if hang ≤ column then .fault else .plain) ++
      ' ' :: label.message ++ ['\n']

/-- The first line of a longer label. -/
def drawFirst (width index : Nat) (l : Line) (label : Label) : List Char :=
  numberMargin width index ++ Ink.fault.each "╭─▶ ".toList ++ drawText l label.start label.stop ++
    ['\n']

/-- The row that stands for the lines between the first and the last. -/
def drawBetween (width : Nat) : List Char :=
  plainMargin width '┆' ++ Ink.fault.char '┆' ++ "   \n".toList

/-- The last line of a longer label, with the rows below it. -/
def drawLast (width index : Nat) (l : Line) (label : Label) : List Char :=
  let count := l.text.length + 2
  numberMargin width index ++ Ink.fault.each "├─▶ ".toList ++ drawText l label.start label.stop ++
    ['\n'] ++ plainMargin width '│' ++ Ink.fault.char '│' ++ "   ".toList ++
    drawColumns l count (fun _ => (' ', ' ')) (fun _ => .plain) ++ ['\n'] ++
    plainMargin width '│' ++ Ink.fault.each "╰───".toList ++
    drawColumns l count (fun _ => ('─', '─')) (fun _ => .fault) ++ ' ' :: label.message ++ ['\n']

/-- The lines that a label touches, from line `first` to line `last`. -/
def drawLines (width : Nat) (ls : List Line) (first last : Nat) (label : Label) : List Char :=
  match ls[first]?, ls[last]? with
  | some l, some l' =>
    if first = last then drawInline width first l label
    else
      drawFirst width first l label ++ (if first + 1 < last then drawBetween width else []) ++
        drawLast width last l' label
  | _, _ => []

/-- The part of a report that shows the source. -/
def drawSource (filename : List Char) (ls : List Line) (label : Label) : List Char :=
  match lineIndex? ls label.start, lineIndex? ls (label.stop - 1) with
  | some first, some last =>
    let width := (Nat.toDigits 10 (last + 1)).length
    let column := label.start - (ls[first]?.map Line.offset).getD 0
    let place := filename ++ ':' :: Nat.toDigits 10 (first + 1) ++
      ':' :: Nat.toDigits 10 (column + 1)
    let indent := List.replicate (width + 2) ' '
    indent ++ Ink.margin.each "╭─[".toList ++ place ++ Ink.margin.char ']' ++ ['\n'] ++
      indent ++ Ink.margin.char '│' ++ ['\n'] ++ drawLines width ls first last label ++
      Ink.margin.paint (List.replicate (width + 2) '─' ++ ['╯']) ++ ['\n']
  | _, _ => []

/-- A report with a heading. -/
def draw (heading filename : List Char) (source : List Char) (label : Label) : List Char :=
  Ink.fault.paint "Error:".toList ++ ' ' :: heading ++ ['\n'] ++
    drawSource filename (linesOf source) label

end PlotDeck.Report

namespace PlotDeck

/-- The characters that a span covers: at least one, whatever the span. -/
def Span.label (s : Span) (source : List Char) : Nat × Nat :=
  let start := Text.charIndex source s.start
  (start, max (Text.charIndex source s.stop) (start + 1))

/-- The report on an error in a text. An error without a span is reported by its message alone. -/
def DeckError.report (e : DeckError) (source filename : String) : String :=
  match e with
  | .malformed format message (some span) =>
    let (start, stop) := span.label source.toList
    String.ofList <| Report.draw ("invalid " ++ format.name ++ " config").toList filename.toList
      source.toList ⟨start, stop, message.toList⟩
  | _ => e.message

end PlotDeck

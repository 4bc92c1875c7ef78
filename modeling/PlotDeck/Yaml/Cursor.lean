import PlotDeck.Text.Position

/-!
# Places in a YAML text

A `Cursor` is what is left of a text together with the `Mark` of where that starts. A line ends with
a line feed, a carriage return, both, or one of three separators beyond ASCII.
-/

namespace PlotDeck.Yaml

/-- A place in a text, counted from zero. -/
structure Mark where
  /-- The bytes before it. -/
  index : Nat := 0
  /-- The lines before it. -/
  line : Nat := 0
  /-- The characters before it on its line. -/
  column : Nat := 0
deriving DecidableEq, Repr, Inhabited

/-- Whether a place is the first of a text. -/
def Mark.isFirst (m : Mark) : Bool := m.line == 0 && m.column == 0

/-- A place for a reader, who counts from one. -/
def Mark.text (m : Mark) : String := s!"line {m.line + 1} column {m.column + 1}"

/-! ### Characters -/

/-- A character that ends a line. -/
def isBreak (c : Char) : Bool :=
  c == '\n' || c == '\r' || c == '\x85' || c == '\u2028' || c == '\u2029'

/-- A blank. -/
def isBlank (c : Char) : Bool := c == ' ' || c == '\t'

/-- A blank or the end of a line. -/
def isGap (c : Char) : Bool := isBlank c || isBreak c

/-- A character of a name. -/
def isWord (c : Char) : Bool := c.isAlphanum || c == '-' || c == '_'

/-- A hexadecimal digit. -/
def isHex (c : Char) : Bool :=
  c.isDigit || ('a' ≤ c && c ≤ 'f') || ('A' ≤ c && c ≤ 'F')

/-- The number that a hexadecimal digit stands for. -/
def hexValue (c : Char) : Nat :=
  if c.isDigit then c.toNat - 48 else if 'a' ≤ c then c.toNat - 87 else c.toNat - 55

/-- A character that may stand in a text at all. -/
def isAllowed (c : Char) : Bool :=
  let n := c.toNat
  n == 0x09 || n == 0x0A || n == 0x0D || (0x20 ≤ n && n ≤ 0x7E) || n == 0x85 ||
    (0xA0 ≤ n && n ≤ 0xD7FF) || (0xE000 ≤ n && n ≤ 0xFFFD) || (0x10000 ≤ n && n ≤ 0x10FFFF)

/-- The ends of lines in a text. The two separators of lines and paragraphs stand for themselves,
all others for a line feed. -/
def breaksOf : List Char → List Char
  | [] => []
  | '\r' :: '\n' :: r => '\n' :: breaksOf r
  | c :: r =>
    if c == '\u2028' || c == '\u2029' then c :: breaksOf r
    else if isBreak c then '\n' :: breaksOf r
    else breaksOf r

/-- A gap between two words as it is read: one line end is a blank, and of more the first is
dropped. Blanks count only where no line ends. -/
def foldGap (gap : List Char) : List Char :=
  match breaksOf gap with
  | [] => gap
  | first :: more =>
    if first = '\n' then if more = [] then [' '] else more
    else first :: more

/-! ### Cursors -/

/-- The place behind a piece of text that starts at a place. -/
def Mark.over (m : Mark) : List Char → Mark
  | [] => m
  | '\r' :: '\n' :: r => Mark.over ⟨m.index + 2, m.line + 1, 0⟩ r
  | c :: r =>
    if isBreak c then Mark.over ⟨m.index + c.utf8Size, m.line + 1, 0⟩ r
    else Mark.over ⟨m.index + c.utf8Size, m.line, m.column + 1⟩ r

/-- What is left of a text, and where it starts. -/
structure Cursor where
  /-- What is left. -/
  rest : List Char
  /-- Where it starts. -/
  mark : Mark := {}

namespace Cursor

/-- The character `n` places ahead, unless the text ends before it. -/
def ahead (c : Cursor) (n : Nat) : Option Char := c.rest[n]?

/-- Whether a given character comes `n` places ahead. -/
def isAt (c : Cursor) (n : Nat) (x : Char) : Bool := c.rest[n]? == some x

/-- Whether a given character comes next. -/
def starts (c : Cursor) (x : Char) : Bool := c.isAt 0 x

/-- Whether the next character satisfies a test. -/
def sees (c : Cursor) (test : Char → Bool) : Bool := (c.rest.head?.map test).getD false

/-- Whether a gap or the end of the text comes `n` places ahead. -/
def gapAt (c : Cursor) (n : Nat) : Bool := (c.rest[n]?.map isGap).getD true

/-- Whether the line or the text ends here. -/
def atLineEnd (c : Cursor) : Bool := (c.rest.head?.map isBreak).getD true

/-- Passes over `n` characters. -/
def drop (c : Cursor) (n : Nat) : Cursor := ⟨c.rest.drop n, c.mark.over (c.rest.take n)⟩

/-- Splits off the characters that satisfy a test. -/
def span (c : Cursor) (test : Char → Bool) : List Char × Cursor :=
  let taken := c.rest.takeWhile test
  (taken, ⟨c.rest.dropWhile test, c.mark.over taken⟩)

/-- Passes over the characters that satisfy a test. -/
def skip (c : Cursor) (test : Char → Bool) : Cursor := (c.span test).2

/-- Passes over the end of a line, if there is one. -/
def skipBreak (c : Cursor) : Cursor :=
  match c.rest with
  | '\r' :: '\n' :: _ => c.drop 2
  | x :: _ => if isBreak x then c.drop 1 else c
  | [] => c

/-- Passes over a comment, if there is one. -/
def skipComment (c : Cursor) : Cursor := if c.starts '#' then c.skip (!isBreak ·) else c

/-- Whether a line starts here with three of a sign and a gap, the mark of a document. -/
def atDocument (c : Cursor) (sign : Char) : Bool :=
  c.mark.column == 0 && c.isAt 0 sign && c.isAt 1 sign && c.isAt 2 sign && c.gapAt 3

/-- Whether the mark of a document, of its start or its end, comes here. -/
def atAnyDocument (c : Cursor) : Bool := c.atDocument '-' || c.atDocument '.'

/-- The number of characters that are left: a bound for loops. -/
def size (c : Cursor) : Nat := c.rest.length

end Cursor

end PlotDeck.Yaml

import PlotDeck.Deck.Basic

/-!
# Printing decks in JSON

A deck is printed with one part to a line, indented by two spaces a level; empty lists stay on one
line. In strings, quotes, backslashes and control characters are escaped, and nothing else. Texts
that a slide does not have are left out.
-/

namespace PlotDeck.Json

/-- What is printed. -/
inductive Value where
  /-- A text. -/
  | text (s : String)
  /-- A truth value. -/
  | flag (b : Bool)
  /-- A list. -/
  | list (items : List Value)
  /-- Members with their names. -/
  | record (members : List (String × Value))

/-- How a character is written in a string. -/
def escapeChar (c : Char) : List Char :=
  if c = '"' then ['\\', '"']
  else if c = '\\' then ['\\', '\\']
  else if c = '\x08' then ['\\', 'b']
  else if c = '\t' then ['\\', 't']
  else if c = '\n' then ['\\', 'n']
  else if c = '\x0c' then ['\\', 'f']
  else if c = '\r' then ['\\', 'r']
  else if c.toNat < 0x20 then
    ['\\', 'u', '0', '0', Nat.digitChar (c.toNat / 16), Nat.digitChar (c.toNat % 16)]
  else [c]

/-- A text as a string. -/
def printString (s : String) : List Char := '"' :: s.toList.flatMap escapeChar ++ ['"']

/-- A line feed and the indentation of a level. -/
def newLine (level : Nat) : List Char := '\n' :: List.replicate (2 * level) ' '

mutual
/-- Prints a value that starts at a level of indentation. -/
def Value.print (level : Nat) : Value → List Char
  | .text s => printString s
  | .flag b => (if b then "true" else "false").toList
  | .list [] => ['[', ']']
  | .list (v :: vs) =>
    '[' :: newLine (level + 1) ++ v.print (level + 1) ++ printItems (level + 1) vs ++
      newLine level ++ [']']
  | .record [] => ['\x7b', '\x7d']
  | .record ((name, v) :: ms) =>
    '\x7b' :: newLine (level + 1) ++ printString name ++ [':', ' '] ++ v.print (level + 1) ++
      printMembers (level + 1) ms ++ newLine level ++ ['\x7d']

/-- Prints the items after the first. -/
def printItems (level : Nat) : List Value → List Char
  | [] => []
  | v :: vs => ',' :: newLine level ++ v.print level ++ printItems level vs

/-- Prints the members after the first. -/
def printMembers (level : Nat) : List (String × Value) → List Char
  | [] => []
  | (name, v) :: ms =>
    ',' :: newLine level ++ printString name ++ [':', ' '] ++ v.print level ++ printMembers level ms
end

/-- A plot with its path and caption. -/
def plotValue (p : Plot) : Value := .record [("path", .text p.path), ("caption", .text p.caption)]

/-- A slide; texts that it does not have are left out. -/
def slideValue (s : Slide) : Value :=
  let optional (name : String) (t : Option String) := (t.map fun t => (name, Value.text t)).toList
  .record <| [("title", .text s.title)] ++ optional "section" s.sectionTitle ++
    optional "toptext" s.topText ++ optional "bottomtext" s.bottomText ++
    [("plots", .list (s.plots.map plotValue))]

/-- A deck with all its members. -/
def deckValue (d : Deck) : Value :=
  .record [
    ("frontpage", .record [("title", .text d.frontPage.title),
      ("subtitle", .text d.frontPage.subtitle),
      ("author", .text d.frontPage.author)]),
    ("slides", .list (d.slides.map slideValue)),
    ("table_of_contents", .flag d.outline)]

/-- Prints a deck. -/
def printDeck (d : Deck) : String := String.ofList ((deckValue d).print 0)

end PlotDeck.Json

import PlotDeck.Deck.Mismatch
import PlotDeck.Text.Position

/-!
# Faults in JSON texts

A place in a text is given by what is left of the text from there. A fault lies a few bytes past
such a place, because a reader has usually looked at the byte that it stumbled over.
-/

namespace PlotDeck.Json

/-- What is wrong with a JSON text. -/
inductive Problem where
  /-- The text ends where a value is expected. -/
  | endInValue
  /-- The text ends inside a list. -/
  | endInList
  /-- The text ends inside a record. -/
  | endInRecord
  /-- The text ends inside a string. -/
  | endInString
  /-- No value starts here. -/
  | expectedValue
  /-- A word starts like `true`, `false` or `null` and goes on otherwise. -/
  | expectedWord
  /-- A colon has to follow a member's name. -/
  | expectedColon
  /-- An item is followed by neither a comma nor the end of the list. -/
  | expectedListEnd
  /-- A member is followed by neither a comma nor the end of the record. -/
  | expectedRecordEnd
  /-- A member has to start with a string. -/
  | expectedName
  /-- A comma is followed by no item or member. -/
  | trailingComma
  /-- Something follows where nothing may. -/
  | trailingText
  /-- A backslash is not followed by an escape. -/
  | invalidEscape
  /-- A number is written wrongly. -/
  | invalidNumber
  /-- A number is too large. -/
  | numberOutOfRange
  /-- A string holds a control character. -/
  | controlCharacter
  /-- A surrogate has no partner. -/
  | loneSurrogate
  /-- A leading surrogate is not followed by an escape. -/
  | endOfEscape
  /-- Lists and records are nested too deeply. -/
  | tooDeep
  /-- The text is well written, but does not describe a deck. -/
  | mismatch (m : Mismatch)
deriving DecidableEq, Repr

/-- JSON calls no value `null`, and gives exponents a sign and at least two digits. -/
def style : FoundStyle where
  null := "null"
  float := { leastPlain := -5, mostPlain := 15, tie := .toEven }

/-- The text of a problem. -/
def Problem.message : Problem → String
  | endInValue => "EOF while parsing a value"
  | endInList => "EOF while parsing a list"
  | endInRecord => "EOF while parsing an object"
  | endInString => "EOF while parsing a string"
  | expectedValue => "expected value"
  | expectedWord => "expected ident"
  | expectedColon => "expected \x60:\x60"
  | expectedListEnd => "expected \x60,\x60 or \x60]\x60"
  | expectedRecordEnd => "expected \x60,\x60 or \x60\x7d\x60"
  | expectedName => "key must be a string"
  | trailingComma => "trailing comma"
  | trailingText => "trailing characters"
  | invalidEscape => "invalid escape"
  | invalidNumber => "invalid number"
  | numberOutOfRange => "number out of range"
  | controlCharacter => "control character (\\u0000-\\u001F) found while parsing a string"
  | loneSurrogate => "lone leading surrogate in hex escape"
  | endOfEscape => "unexpected end of hex escape"
  | tooDeep => "recursion limit exceeded"
  | mismatch m => m.message style

/-- A problem and the place where it was met. -/
structure Fault where
  /-- What is wrong. -/
  problem : Problem
  /-- What is left of the text from the place of the fault. -/
  rest : List Char
  /-- How many bytes past that place the fault lies. -/
  reach : Nat
deriving DecidableEq, Repr

namespace Fault

/-- A fault at a place. -/
def here (p : Problem) (rest : List Char) : Fault := ⟨p, rest, 0⟩

/-- A fault in the byte at a place. -/
def inByte (p : Problem) (rest : List Char) : Fault := ⟨p, rest, 1⟩

/-- The byte offset of a fault in the text. -/
def offset (f : Fault) (source : List Char) : Nat :=
  min (Text.byteSize source) (Text.byteSize source - Text.byteSize f.rest + f.reach)

/-- The 1-based line of a byte offset, and the bytes before it on that line. The offset may lie
inside a character. -/
def lineAndColumn (source : List Char) (offset : Nat) : Nat × Nat :=
  let start := Text.floorBoundary source offset
  (Text.lineOf source start, Text.columnOf source start + (offset - start))

end Fault

end PlotDeck.Json

import PlotDeck.Yaml.Fault

/-!
# YAML tokens

The parts that a YAML text is cut into. Indentation shows as tokens too: a block starts where a line
is indented further and ends where it is indented less.
-/

namespace PlotDeck.Yaml

/-- How a scalar is written. -/
inductive Style where
  /-- Without quotes. -/
  | plain
  /-- In quotes, single or double. -/
  | quoted
  /-- As a block, line by line. -/
  | literal
  /-- As a block of which the lines are joined. -/
  | folded
deriving DecidableEq, Repr

/-- What a token is. -/
inductive TokenKind where
  /-- The end of the text. -/
  | streamEnd
  /-- The version of the notation. -/
  | version (major minor : Nat)
  /-- A handle for tags and the text that it stands for. -/
  | handle (handle text : List Char)
  /-- The mark of the start of a document. -/
  | documentStart
  /-- The mark of the end of a document. -/
  | documentEnd
  /-- The start of an indented sequence. -/
  | blockSequenceStart
  /-- The start of an indented mapping. -/
  | blockMappingStart
  /-- The end of an indented block. -/
  | blockEnd
  /-- An opening bracket. -/
  | flowSequenceStart
  /-- A closing bracket. -/
  | flowSequenceEnd
  /-- An opening brace. -/
  | flowMappingStart
  /-- A closing brace. -/
  | flowMappingEnd
  /-- The dash of an entry. -/
  | blockEntry
  /-- The comma between entries. -/
  | flowEntry
  /-- The start of a key, written or not. -/
  | key
  /-- The colon before a value. -/
  | value
  /-- A reference to an anchor. -/
  | reference (name : List Char)
  /-- A name for what follows. -/
  | anchor (name : List Char)
  /-- A tag: its handle and the rest. -/
  | tag (handle rest : List Char)
  /-- A scalar. -/
  | scalar (text : List Char) (style : Style)
deriving DecidableEq, Repr

/-- A token and where it stands. -/
structure Token where
  /-- What it is. -/
  kind : TokenKind
  /-- Where it starts. -/
  start : Mark
  /-- Where it ends. -/
  stop : Mark
deriving DecidableEq, Repr

end PlotDeck.Yaml

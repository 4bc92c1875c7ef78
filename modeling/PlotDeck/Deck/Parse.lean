import PlotDeck.Deck.Error
import PlotDeck.Json.Deck
import PlotDeck.Toml.Deck
import PlotDeck.Yaml.Deck

/-!
# Parsing a description

The deck that a text describes in a given format, or the error with the place of the fault.
-/

namespace PlotDeck

/-- A fault in a JSON text. Its message names the line and column of a byte, and its span is the
character that holds the byte before. -/
def DeckError.ofJson (source : List Char) (f : Json.Fault) : DeckError :=
  let (line, column) := Json.Fault.lineAndColumn source (f.offset source)
  let start := Text.offsetOf source line column
  .malformed .json (f.problem.message ++ s!" at line {line} column {column}")
    (some ⟨start, Text.nextBoundary source start⟩)

/-- How TOML and YAML show the values they found: numbers are always written out, and of two texts
equally near the larger one is taken. -/
def FoundStyle.writtenOut : FoundStyle where
  null := "unit value"
  float := ⟨-400, 400, .up⟩

/-- Why a TOML text describes no deck. The span of a fault of the notation is one character. -/
def DeckError.ofToml (source : List Char) : Toml.Failure → DeckError
  | .syntactic fault =>
    let start := Text.byteSize source - Text.byteSize fault.rest
    .malformed .toml fault.message (some ⟨start, Text.nextBoundary source start⟩)
  | .content misfit =>
    let place (rest : List Char) := Text.byteSize source - Text.byteSize rest
    .malformed .toml (misfit.mismatch.message FoundStyle.writtenOut)
      (some ⟨place misfit.region.start, place misfit.region.stop⟩)

/-- Why a YAML text describes no deck. The span of a failure is one character. -/
def DeckError.ofYaml (source : List Char) (failure : Yaml.Failure) : DeckError :=
  let span (m : Yaml.Mark) : Span :=
    let start := min m.index (Text.byteSize source)
    ⟨start, Text.nextBoundary source start⟩
  .malformed .yaml (failure.message .writtenOut) (failure.mark?.map span)

/-- The deck that a text describes. -/
def Deck.parse (format : Format) (content : String) : Except DeckError Deck :=
  match format with
  | .json => (Json.readDeck content.toList).mapError (.ofJson content.toList)
  | .toml => (Toml.readDeck content.toList).mapError (.ofToml content.toList)
  | .yaml => (Yaml.readDeck content.toList).mapError (.ofYaml content.toList)

end PlotDeck

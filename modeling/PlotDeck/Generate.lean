import PlotDeck.Build.Passes
import PlotDeck.Compare.Comparison
import PlotDeck.Deck.Parse
import PlotDeck.Document

/-!
# From a description to documents on disk

A deck is loaded from a file, and its two documents are written to their paths. All slides are laid
out before the first file is written, so a deck with a slide that cannot be laid out leaves nothing
behind.
-/

namespace PlotDeck

/-- Why a run came to nothing. -/
inductive RunError where
  /-- The deck could not be loaded. -/
  | deck (e : DeckError)
  /-- A slide could not be laid out. -/
  | layout (e : LayoutError)
  /-- A file could not be read or written. -/
  | file (e : FileError)
  /-- The compiler could not be started. -/
  | start (e : StartError)
  /-- There was nothing to compare. -/
  | compare (e : CompareError)

/-- The text of an error. -/
def RunError.message : RunError → String
  | deck e => e.message
  | layout e => e.message
  | file e => e.message
  | start e => e.message
  | compare e => e.message

variable {m : Type → Type} [Monad m] [Host m]

/-- Loads the deck that a file describes, in the format that its extension tells. -/
def Deck.load (p : Path) : ExceptT DeckError m Deck := do
  let content ← ExceptT.mk do return (← Host.readText p).mapError (.unreadable p)
  Deck.parse (Format.ofPath p) content

/-- Writes both documents, the body first. -/
def Documents.write (d : Documents) (o : OutputPaths) : ExceptT FileError m Unit := do
  o.body.writeText d.body
  o.main.writeText d.main

/-- Renders a deck and writes its documents. -/
def Deck.make (d : Deck) (o : OutputPaths) (options : RenderOptions) :
    ExceptT RunError m Documents := do
  let documents ← ExceptT.mk (pure ((d.render o.bodyReference options).mapError .layout))
  (documents.write o).adapt .file
  return documents

end PlotDeck

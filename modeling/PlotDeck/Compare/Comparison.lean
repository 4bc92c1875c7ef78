import PlotDeck.Compare.NaturalOrder
import PlotDeck.Deck.Basic
import PlotDeck.Host.Files

/-!
# Comparing directories

A **comparison** shows plots of the same name from several directories side by side: it is a deck
with one slide for each name and one plot on it for each directory. The names are given, or they are
those of all files with a certain extension that the directories have in common.
-/

namespace PlotDeck

/-- The plots to compare. -/
inductive PlotChoice where
  /-- The plots with these names, in this order. -/
  | named (names : List String)
  /-- All plots with an extension, which may be written with dots before it. -/
  | withExtension (ext : String)
deriving DecidableEq, Repr

/-- What is compared. -/
structure Comparison where
  /-- The directories. -/
  dirs : List Path
  /-- The captions of the directories in order. The last directories may have none. -/
  labels : List String := []
  /-- The plots. -/
  plots : PlotChoice := .withExtension "pdf"
  /-- The title of the deck. -/
  title : String := "Plot comparison"
deriving DecidableEq, Repr

/-- Why there is no comparison. -/
inductive CompareError where
  /-- There are no directories. -/
  | noDirectories
  /-- There are more labels than directories. -/
  | tooManyLabels (labels dirs : Nat)
  /-- The directories have no plots with the extension in common. -/
  | noCommonPlots (ext : String)
  /-- A directory could not be read. -/
  | unreadable (e : FileError)
deriving DecidableEq, Repr

/-- The text of an error. -/
def CompareError.message : CompareError → String
  | noDirectories => "no directories to compare"
  | tooManyLabels labels dirs => s!"{labels} labels given for {dirs} directories"
  | noCommonPlots ext => "no plots with extension '" ++ ext ++ "' are common to all directories"
  | unreadable e => e.message

namespace Compare

/-! ### Discovering plots -/

/-- An extension without the dots before it. -/
def bareExtension (ext : String) : String := String.ofList (ext.toList.dropWhile (· == '.'))

/-- Whether an entry of a directory is a file with the extension. -/
def hasExtension (ext : String) (entry : DirectoryEntry) : Bool :=
  entry.isFile && Path.extension? ⟨entry.name⟩ == some ext

/-- The names that are in all of several lists, each once. -/
def common : List (List String) → List String
  | [] => []
  | names :: others => names.eraseDups.filter fun name => others.all (·.contains name)

variable {m : Type → Type} [Monad m] [Host m]

/-- The names of the files in a directory that have the extension. -/
def plotsIn (ext : String) (dir : Path) : ExceptT FileError m (List String) := do
  let entries ← ExceptT.mk do return (← Host.entries dir).mapError (.read dir)
  return (entries.filter (hasExtension ext)).map (·.name)

/-- The names of the files with an extension that all directories have in common, in natural order.
The first directory that cannot be read is the error. -/
def discover (dirs : List Path) (ext : String) : ExceptT FileError m (List String) := do
  return sortNatural (common (← dirs.mapM (plotsIn (bareExtension ext))))

end Compare

namespace Comparison

/-! ### The deck -/

/-- One plot for each directory, with the labels as captions as far as they go. -/
def panels (name : String) : List Path → List String → List Plot
  | [], _ => []
  | dir :: dirs, labels =>
    ⟨(dir.join ⟨name⟩).text, labels.headD ""⟩ :: panels name dirs labels.tail

/-- The slide that shows the plots of one name. -/
def slide (c : Comparison) (name : String) : Slide where
  title := name
  plots := panels name c.dirs c.labels

/-- The deck that compares the plots of these names. -/
def deckOf (c : Comparison) (names : List String) : Deck where
  frontPage := { title := c.title }
  slides := names.map c.slide

variable {m : Type → Type} [Monad m] [Host m]

/-- The names of the plots to compare. -/
def names (c : Comparison) : ExceptT CompareError m (List String) :=
  match c.plots with
  | .named names => return names
  | .withExtension ext => do
    let found ← (Compare.discover c.dirs ext).adapt .unreadable
    if found.isEmpty then throw (.noCommonPlots ext) else return found

/-- The deck of a comparison. -/
def deck (c : Comparison) : ExceptT CompareError m Deck := do
  if c.dirs.isEmpty then throw .noDirectories
  if c.labels.length > c.dirs.length then throw (.tooManyLabels c.labels.length c.dirs.length)
  return c.deckOf (← c.names)

end Comparison

end PlotDeck

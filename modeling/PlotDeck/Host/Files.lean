import PlotDeck.Host.Basic

/-!
# Reading and writing text files

A file is read as a whole and written as a whole. Writing makes the directories above the file that
are missing; where that fails, the error names the directory of the file.
-/

namespace PlotDeck

/-- A file operation that failed. -/
inductive FileError where
  /-- A file or directory could not be read. -/
  | read (path : Path) (cause : OsError)
  /-- A file or directory could not be written. -/
  | write (path : Path) (cause : OsError)
deriving DecidableEq, Repr

namespace FileError

/-- The file or directory in question. -/
def path : FileError → Path
  | read path _ | write path _ => path

/-- The text of an error. -/
def message : FileError → String
  | read path cause => "failed to read " ++ path.text ++ ": " ++ cause.message
  | write path cause => "failed to write " ++ path.text ++ ": " ++ cause.message

end FileError

variable {m : Type → Type} [Monad m] [Host m]

/-- Makes the directory with this lead and these parts in reverse order, unless it is there. If it
cannot be made because nothing is there to make it in, the directory above it is made first. -/
def makeDirectories (lead : List Char) : List (List Char) → m (Except OsError Unit)
  | [] => return .ok ()
  | part :: above => do
    let dir := Path.ofPartsBack lead (part :: above)
    match ← Host.makeDirectory dir with
    | .ok () => return .ok ()
    | .error .notFound =>
      match ← makeDirectories lead above with
      | .error e => return .error e
      | .ok () => make dir
    | .error e => unlessThere dir e
where
  /-- Makes one directory, unless it is there. -/
  make (dir : Path) : m (Except OsError Unit) := do
    match ← Host.makeDirectory dir with
    | .ok () => return .ok ()
    | .error e => unlessThere dir e
  /-- An error stands unless the directory is there. -/
  unlessThere (dir : Path) (e : OsError) : m (Except OsError Unit) := do
    if ← Host.isDirectory dir then return .ok () else return .error e

/-- Makes a directory and everything above it. -/
def Path.makeDirectories (dir : Path) : m (Except OsError Unit) :=
  PlotDeck.makeDirectories (lead dir.text.toList) dir.partsBack

/-- The text of a file. -/
def Path.readText (p : Path) : ExceptT FileError m String :=
  ExceptT.mk do return (← Host.readText p).mapError (.read p)

/-- Gives a file a new text, and makes the directories above it. -/
def Path.writeText (p : Path) (text : String) : ExceptT FileError m Unit := do
  if let some dir := p.parent? then
    ExceptT.mk do return (← dir.makeDirectories).mapError (.write dir)
  ExceptT.mk do return (← Host.writeText p text).mapError (.write p)

end PlotDeck

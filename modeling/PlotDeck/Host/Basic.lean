import PlotDeck.Host.OsError
import PlotDeck.Path

/-!
# Hosts

Everything that a run asks of the machine it runs on goes through a **host**: reading and writing
files, looking at directories, starting programs, and printing. A run is written once for every
host. The world in memory is the host about which theorems are stated; the operating system is the
host of the program itself.
-/

namespace PlotDeck

/-- A program and its arguments. -/
structure Command where
  /-- The program to start. -/
  program : String
  /-- Its arguments in order. -/
  args : List String
deriving DecidableEq, Repr

/-- How a program ended. -/
inductive Exit where
  /-- It ended by itself and left a code. -/
  | code (code : Int)
  /-- A signal ended it. -/
  | signal
deriving DecidableEq, Repr

namespace Exit

/-- The code that a program left; none if a signal ended it. -/
def code? : Exit → Option Int
  | code c => some c
  | signal => none

/-- Whether a program ended well. -/
def isSuccess (e : Exit) : Bool := e == code 0

end Exit

/-- A name in a directory. -/
structure DirectoryEntry where
  /-- The name. -/
  name : String
  /-- Whether it is the name of a file. -/
  isFile : Bool
deriving DecidableEq, Repr

/-- What a run can ask of its surroundings. -/
class Host (m : Type → Type) where
  /-- Reads a text file. -/
  readText : Path → m (Except OsError String)
  /-- Gives a file a new content, and makes the file if it is not there. -/
  writeText : Path → String → m (Except OsError Unit)
  /-- Makes one directory. -/
  makeDirectory : Path → m (Except OsError Unit)
  /-- What is in a directory, in any order. -/
  entries : Path → m (Except OsError (List DirectoryEntry))
  /-- Whether a path leads to a file. -/
  isFile : Path → m Bool
  /-- Whether a path leads to a directory. -/
  isDirectory : Path → m Bool
  /-- Removes a file. -/
  removeFile : Path → m (Except OsError Unit)
  /-- Starts a program and waits until it has ended. -/
  run : Command → m (Except OsError Exit)
  /-- Starts a program that shows something to the user, and does not wait for it. -/
  launch : Command → m (Except OsError Unit)
  /-- Prints to standard output. -/
  print : String → m Unit
  /-- Prints to standard error. -/
  printError : String → m Unit

end PlotDeck

import PlotDeck.Host.FileTree

/-!
# The world in memory

A **world** is a file tree, what the programs in it do, and what has been printed so far. It is a
host on which a whole run is a function from worlds to worlds.
-/

namespace PlotDeck

/-- What a program did: how it ended, the tree that it left, and what it printed. -/
structure Outcome where
  /-- How it ended. -/
  exit : Exit
  /-- The tree after it. -/
  tree : FileTree
  /-- What it printed to standard output. -/
  out : String := ""
  /-- What it printed to standard error. -/
  err : String := ""

/-- What happens when a command is started on a tree: it cannot be started, or it runs to its
end. -/
abbrev Programs := Command → FileTree → Except OsError Outcome

/-- The state of a host in memory. -/
structure World where
  /-- The files and directories. -/
  tree : FileTree := default
  /-- What programs do. -/
  programs : Programs := fun _ _ => .error .notFound
  /-- What has been printed to standard output. -/
  out : String := ""
  /-- What has been printed to standard error. -/
  err : String := ""

namespace World

/-- Changes the tree, unless that fails. -/
def edit (w : World) : Except OsError FileTree → Except OsError Unit × World
  | .ok tree => (.ok (), { w with tree })
  | .error e => (.error e, w)

/-- Starts a program and lets it run to its end. -/
def run (w : World) (c : Command) : Except OsError Exit × World :=
  match w.programs c w.tree with
  | .ok o => (.ok o.exit, { w with tree := o.tree, out := w.out ++ o.out, err := w.err ++ o.err })
  | .error e => (.error e, w)

instance : Host (StateM World) where
  readText p w := (w.tree.readText p, w)
  writeText p text w := w.edit (w.tree.write p text.toUTF8)
  makeDirectory p w := w.edit (w.tree.makeDirectory p)
  entries p w := (w.tree.entries p, w)
  isFile p w := (w.tree.isFile p, w)
  isDirectory p w := (w.tree.isDirectory p, w)
  removeFile p w := w.edit (w.tree.remove p)
  run c w := w.run c
  launch c w := ((w.run c).1.map fun _ => (), (w.run c).2)
  print text w := ((), { w with out := w.out ++ text })
  printError text w := ((), { w with err := w.err ++ text })

end World

end PlotDeck

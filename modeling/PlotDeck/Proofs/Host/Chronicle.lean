import PlotDeck.Proofs.Host.World

/-!
# Chronicles

In the world in memory a program does the same whenever it is started on the same files. A
**chronicle** is a host on which anything may come of the starts: what comes of each of them is laid
down, one after the other, whatever is started, and so is which files cannot be removed. What is
asked of it that can change something is entered in it, also if it fails.
-/

namespace PlotDeck

/-- What comes of a start: the program cannot be started, or it runs to its end. -/
abbrev Turn := Except OsError Outcome

/-- Something asked of a host that can change what is there. -/
inductive Deed where
  /-- A file is to get a new content. -/
  | write (p : Path) (text : String)
  /-- A directory is to be made. -/
  | makeDirectory (p : Path)
  /-- A file is to be removed. -/
  | remove (p : Path)
  /-- A program is started, and its end is waited for. -/
  | start (c : Command)
  /-- A program is started, and its end is not waited for. -/
  | launch (c : Command)
  /-- Something is printed to standard output. -/
  | print (text : String)
  /-- Something is printed to standard error. -/
  | printError (text : String)
deriving DecidableEq, Repr

/-- The state of a host on which everything that comes of the starts is laid down. -/
structure Chronicle where
  /-- The files and directories. -/
  tree : FileTree := default
  /-- What comes of the next starts, in order. -/
  turns : List Turn := []
  /-- Why a file cannot be removed, for those that cannot. -/
  refusal : Path → Option OsError := fun _ => none
  /-- What has been asked of the host, in order. -/
  deeds : List Deed := []

namespace Chronicle

/-- The chronicle with one more deed entered. -/
def enter (s : Chronicle) (d : Deed) : Chronicle := { s with deeds := s.deeds ++ [d] }

/-- Changes the tree, unless that fails. -/
def edit (s : Chronicle) : Except OsError FileTree → Except OsError Unit × Chronicle
  | .ok tree => (.ok (), { s with tree })
  | .error e => (.error e, s)

/-- Takes the next turn. Where nothing more is laid down, no program is found. -/
def next (s : Chronicle) : Except OsError Exit × Chronicle :=
  match s.turns with
  | [] => (.error .notFound, s)
  | .error e :: turns => (.error e, { s with turns })
  | .ok o :: turns => (.ok o.exit, { s with turns, tree := o.tree })

/-- Removes a file that can be removed. -/
def drop (s : Chronicle) (p : Path) : Except OsError FileTree :=
  match s.refusal p with
  | some e => .error e
  | none => s.tree.remove p

instance : Host (StateM Chronicle) where
  readText p s := (s.tree.readText p, s)
  writeText p text s := (s.enter (.write p text)).edit (s.tree.write p text.toUTF8)
  makeDirectory p s := (s.enter (.makeDirectory p)).edit (s.tree.makeDirectory p)
  entries p s := (s.tree.entries p, s)
  isFile p s := (s.tree.isFile p, s)
  isDirectory p s := (s.tree.isDirectory p, s)
  removeFile p s := (s.enter (.remove p)).edit (s.drop p)
  run c s := (s.enter (.start c)).next
  launch c s := let r := (s.enter (.launch c)).next; (r.1.map fun _ => (), r.2)
  print text s := ((), s.enter (.print text))
  printError text s := ((), s.enter (.printError text))

/-! ### Actions that can fail -/

section Attempt

variable {α β δ ε : Type} {s s' : Chronicle} {x : ExceptT ε (StateM Chronicle) α}
  {f : α → ExceptT ε (StateM Chronicle) β}

/-- Runs an action that can fail: what comes of it, and the chronicle after it. -/
def attempt (s : Chronicle) (x : ExceptT ε (StateM Chronicle) α) : Except ε α × Chronicle := x.run s

theorem attempt_bind_of_eq_ok {a : α} (h : s.attempt x = (.ok a, s')) :
    s.attempt (x >>= f) = s'.attempt (f a) := by
  rw [attempt, ExceptT.run_bind]
  exact bind_of_eq h

theorem attempt_bind_of_eq_error {e : ε} (h : s.attempt x = (.error e, s')) :
    s.attempt (x >>= f) = (.error e, s') := by
  rw [attempt, ExceptT.run_bind]
  exact bind_of_eq h

/-- An action that cannot fail. -/
theorem attempt_lift_of_eq {y : StateM Chronicle α} {a : α} (h : y s = (a, s')) :
    s.attempt (ExceptT.lift y : ExceptT ε _ _) = (.ok a, s') := by
  change (Except.ok (y s).1, (y s).2) = _
  rw [h]

/-- An action with its errors renamed does the same. -/
theorem attempt_mk_mapError {y : StateM Chronicle (Except δ α)} {r : Except δ α} (g : δ → ε)
    (h : y s = (r, s')) :
    s.attempt (ExceptT.mk do return (← y).mapError g) = (r.mapError g, s') := by
  change (y >>= _) s = _
  exact bind_of_eq h

end Attempt

end Chronicle

end PlotDeck

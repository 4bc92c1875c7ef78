import PlotDeck.Host.Priority
import PlotDeck.Host.Shell

/-!
# Finding programs

A command names a program by itself or by a path. By itself it is one of the programs that are
installed; by a path from the root it is an installed program in its usual directory, and by any
other path it is a file of the tree that can be executed. The installed programs and the directories
around them are not kept in the tree. The names that every directory has for itself and the one
above it are names too, but not of programs.
-/

namespace PlotDeck.Programs

/-- The installed programs by name. -/
abbrev Installed := String → Option Tool

/-! ### Installed programs -/

/-- What a system holds apart from the tree. -/
inductive SystemItem where
  /-- A directory. -/
  | directory
  /-- An installed program. -/
  | program (tool : Tool)

/-- The directories that hold the installed programs, the innermost name first. -/
def programDirectories : List (List String) := [["bin"], ["bin", "usr"]]

/-- The directories of a usual system, the innermost name first. -/
def systemDirectories : List (List String) :=
  [] :: programDirectories ++ ["dev", "etc", "home", "lib", "opt", "proc", "root", "run", "sbin",
    "sys", "tmp", "usr", "var"].map fun name => [name]

/-- What names lead to from the root, the innermost name first. -/
def systemItem (installed : Installed) (names : List String) : Except OsError SystemItem :=
  if names ∈ systemDirectories then .ok .directory
  else
    let name? := if names.drop 1 ∈ programDirectories then names.head? else none
    match name?.bind installed with
    | some tool => .ok (.program tool)
    | none => .error .notFound

/-- Goes from a directory of the system to a name in it. -/
def systemStep (installed : Installed) (here : List String) (name : String) :
    Except OsError (List String) := do
  match ← systemItem installed here with
  | .program _ => .error .notDirectory
  | .directory =>
    if name.utf8ByteSize > 255 then .error .nameTooLong
    else if name = "." then .ok here
    else if name = ".." then .ok (here.drop 1)
    else .ok (name :: here)

/-- The installed program that a path from the root leads to. -/
def installedAt (installed : Installed) (p : Path) : Except OsError Tool := do
  if p.text.utf8ByteSize ≥ 4096 then .error .nameTooLong
  else
    let names ← p.names.foldlM (systemStep installed) []
    match ← systemItem installed names with
    | .directory => .error .accessDenied
    | .program tool => if p.endsInSlash then .error .notDirectory else .ok tool

/-! ### Programs of the tree -/

/-- The interpreter that the first line of a program names, and what follows its name. -/
def interpreter? (content : ByteArray) : Option (String × List String) :=
  match (Text.shown content).toList with
  | '#' :: '!' :: rest =>
    let isBlank (c : Char) : Bool := c = ' ' || c = '\t'
    let line := (rest.takeWhile (· != '\n')).dropWhile isBlank
    let name := line.takeWhile (!isBlank ·)
    let option := ((line.drop name.length).dropWhile isBlank).reverse.dropWhile isBlank
    if name = [] then none
    else some (String.ofList name, if option = [] then [] else [String.ofList option.reverse])
  | _ => none

/-- Executes a file of the tree. Its interpreter is an installed program. -/
def execute (installed : Installed) (p : Path) (args : List String) (t : FileTree) :
    Except OsError Outcome := do
  match ← t.find p with
  | .file content true =>
    match interpreter? content with
    | none => .error .notRunnable
    | some (interpreter, options) =>
      if (Path.mk interpreter).isAbsolute then
        return (← installedAt installed ⟨interpreter⟩) (options ++ p.text :: args) t
      else .error .notFound
  | _ => .error .accessDenied

/-! ### Starting programs -/

/-- Whether a command holds a null character, which no program can be given. -/
def hasNull (c : Command) : Bool := (c.program :: c.args).any (·.toList.contains '\x00')

/-- Why a program that goes by its name alone is not found. -/
def whyNotFound (name : String) : OsError :=
  if name = "." ∨ name = ".." then .accessDenied
  else if name.utf8ByteSize > 255 then .nameTooLong
  else .notFound

/-- Starts an installed program or a program of the tree. -/
def start (installed : Installed) (c : Command) (t : FileTree) : Except OsError Outcome := do
  if hasNull c then .error .nullInCommand
  else if (Path.mk c.program).isAbsolute then return (← installedAt installed ⟨c.program⟩) c.args t
  else if c.program.toList.contains '/' then execute installed ⟨c.program⟩ c.args t
  else
    match installed c.program with
    | some tool => return tool c.args t
    | none => .error (whyNotFound c.program)

/-- Becomes another program, as `tool` does at the end of its own work. A file that names no
interpreter is run by the shell. -/
def become (tool : String) (installed : Installed) (c : Command) (t : FileTree) : Outcome :=
  match start installed c t with
  | .ok o => o
  | .error .notRunnable => Shell.run (c.program :: c.args) t
  | .error e =>
    { exit := .code (if e = .notFound then 127 else 126), tree := t,
      err := Tool.complaint tool "" ("'" ++ c.program ++ "'") e }

/-- Starts a program at a lower priority. -/
def nice (installed : Installed) : Tool := fun args t =>
  match Priority.Request.ofArgs args with
  | .error r => { exit := .code r.code, tree := t, err := r.message }
  | .ok request =>
    match request.command with
    | [] => { exit := .code 0, tree := t, out := "0\n" }
    | program :: args => become "nice" installed ⟨program, args⟩ t

/-- Starts a program by its name; settings before the name say nothing here. -/
def env (installed : Installed) : Tool := fun args t =>
  match args.dropWhile (·.toList.contains '=') with
  | [] => { exit := .code 0, tree := t }
  | program :: args => become "env" installed ⟨program, args⟩ t

/-- The installed programs. Those that start another one do so at most so many times within each
other. -/
def installed : Nat → Installed
  | _, "sh" => some Shell.run
  | depth + 1, "nice" => some (nice (installed depth))
  | depth + 1, "env" => some (env (installed depth))
  | _, name => tool? name

/-- The programs of a usual system. A program that starts another one hands it fewer arguments than
it has itself. -/
def standard : Programs := fun c t => start (installed (c.args.length + 1)) c t

/-- Only the programs in a directory of the tree. -/
def inDirectory (dir : Path) : Programs := fun c t =>
  if hasNull c then .error .nullInCommand
  else match t.find (dir.join ⟨c.program⟩) with
    | .error _ => .error (whyNotFound c.program)
    | .ok _ => execute (installed (c.args.length + 1)) (dir.join ⟨c.program⟩) c.args t

end PlotDeck.Programs

import PlotDeck.Host.World
import PlotDeck.Text.Utf8

/-!
# Simple programs

The programs that a world in memory can have: each is a function of its arguments and the file tree.
They stand in for a compiler when a build is tried out.
-/

namespace PlotDeck

/-- What a program does with its arguments on a file tree. -/
abbrev Tool := List String → FileTree → Outcome

namespace Tool

/-- Does nothing and ends with a code. -/
def ending (code : Int) : Tool := fun _ t => { exit := .code code, tree := t }

/-- Prints its arguments. -/
def echo : Tool := fun args t =>
  { exit := .code 0, tree := t, out := String.intercalate " " args ++ "\n" }

/-- A complaint about a file. -/
def complaint (tool what : String) (p : String) (e : OsError) : String :=
  let cause := match e with
    | .notFound => "No such file or directory"
    | .notDirectory => "Not a directory"
    | .isDirectory => "Is a directory"
    | .alreadyExists => "File exists"
    | .accessDenied => "Permission denied"
    | .nameTooLong => "File name too long"
    | other => other.message
  tool ++ ": " ++ what ++ p ++ ": " ++ cause ++ "\n"

/-- Does something for each argument. What fails is complained about, and the code is then 1. -/
def forEach (tool what : String)
    (act : Outcome → String → Except OsError Outcome) : Tool := fun args t =>
  args.foldl (fun o arg =>
    match act o arg with
    | .ok o => o
    | .error e => { o with exit := .code 1, err := o.err ++ complaint tool what arg e })
    { exit := .code 0, tree := t }

/-- Prints files. -/
def cat : Tool := forEach "cat" "" fun o arg => do
  return { o with out := o.out ++ Text.shown (← o.tree.readBytes ⟨arg⟩) }

/-- Makes files that are not there. -/
def touch : Tool := forEach "touch" "cannot touch " fun o arg => do
  match o.tree.find ⟨arg⟩ with
  | .ok _ => return o
  | .error _ => return { o with tree := ← o.tree.write ⟨arg⟩ ⟨#[]⟩ }

/-- Removes files; with `-f`, those that are there. -/
def rm : Tool := fun args t =>
  match args with
  | "-f" :: args =>
    forEach "rm" "cannot remove " (fun o arg =>
      match o.tree.remove ⟨arg⟩ with
      | .ok tree => .ok { o with tree }
      | .error .notFound => .ok o
      | .error e => .error e) args t
  | args =>
    forEach "rm" "cannot remove " (fun o arg => do
      return { o with tree := ← o.tree.remove ⟨arg⟩ }) args t

/-- Makes directories; with `-p`, also those above them. -/
def mkdir : Tool := fun args t =>
  match args with
  | "-p" :: args =>
    forEach "mkdir" "cannot create directory " (fun o arg =>
      .ok { o with tree := o.tree.plantDirectory ⟨arg⟩ }) args t
  | args =>
    forEach "mkdir" "cannot create directory " (fun o arg => do
      return { o with tree := ← o.tree.makeDirectory ⟨arg⟩ }) args t

/-- Copies a file. -/
def cp : Tool := fun args t =>
  match args with
  | [source, target] =>
    forEach "cp" "cannot copy " (fun o arg => do
      return { o with tree := ← o.tree.write ⟨target⟩ (← o.tree.readBytes ⟨arg⟩) }) [source] t
  | _ => ending 1 args t

/-- Whether a condition on files and texts holds; none if it is none. -/
def condition? (t : FileTree) : List String → Option Bool
  | [] => some false
  | ["!", s] => some (s = "")
  | [s] => some (s ≠ "")
  | ["-e", p] => some (t.find ⟨p⟩).isOk
  | ["-f", p] => some (t.isFile ⟨p⟩)
  | ["-d", p] => some (t.isDirectory ⟨p⟩)
  | ["-r", p] | ["-w", p] => some (t.find ⟨p⟩).isOk
  | ["-s", p] => some ((t.readBytes ⟨p⟩).toOption.any (·.size > 0))
  | ["-n", s] => some (s ≠ "")
  | ["-z", s] => some (s = "")
  | "!" :: rest => (condition? t rest).map (!·)
  | [a, "=", b] => some (a = b)
  | [a, "!=", b] => some (a ≠ b)
  | [a, op, b] =>
    match a.toInt?, b.toInt? with
    | some a, some b =>
      match op with
      | "-eq" => some (a = b)
      | "-ne" => some (a ≠ b)
      | "-lt" => some (a < b)
      | "-le" => some (a ≤ b)
      | "-gt" => some (a > b)
      | "-ge" => some (a ≥ b)
      | _ => none
    | _, _ => none
  | _ => none

/-- Tells by its code whether a condition holds. -/
def test : Tool := fun args t =>
  match condition? t args with
  | some true => ending 0 args t
  | some false => ending 1 args t
  | none => ending 2 args t

end Tool

/-- The tools by name. -/
def tool? : String → Option Tool
  | "true" => some (Tool.ending 0)
  | "false" => some (Tool.ending 1)
  | "echo" => some Tool.echo
  | "cat" => some Tool.cat
  | "touch" => some Tool.touch
  | "rm" => some Tool.rm
  | "mkdir" => some Tool.mkdir
  | "cp" => some Tool.cp
  | "test" => some Tool.test
  | _ => none

end PlotDeck

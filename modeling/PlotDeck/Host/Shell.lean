import PlotDeck.Host.Tools

/-!
# A small shell

Runs scripts of simple commands: words with quotes and parameters, output sent to files, and the
connectors `;`, `&&` and `||`. A script is read line by line, so what stands before a line that
cannot be read has been done when the fault is found. It stands in for a compiler whose passes fail,
end by a signal or leave files behind.
-/

namespace PlotDeck.Shell

/-! ### Words -/

/-- A piece of a word. -/
inductive Piece where
  /-- A character that stands for itself. -/
  | char (c : Char)
  /-- Quotes, which make a word even of nothing. -/
  | quotes
  /-- A parameter, which stands for its value. -/
  | parameter (name : String)
deriving DecidableEq, Repr

/-- What a line is made of. -/
inductive Token where
  /-- A word. -/
  | word (pieces : List Piece)
  /-- An operator. -/
  | operator (text : String)
  /-- The end of a line. -/
  | newline
  /-- Quotes that are not closed. -/
  | unterminated
deriving DecidableEq, Repr

/-- What the next character belongs to. -/
inductive Mode where
  /-- Nothing that has begun. -/
  | plain
  /-- A comment. -/
  | comment
  /-- A text in single quotes. -/
  | single
  /-- A text in double quotes. -/
  | double
  /-- A backslash, perhaps in double quotes. -/
  | escape (quoted : Bool)
  /-- The name of a parameter, perhaps in double quotes, in reverse order. -/
  | parameter (quoted : Bool) (name : List Char)
  /-- The name of a parameter in braces. -/
  | braces (quoted : Bool) (name : List Char)
  /-- An operator. -/
  | operator (text : List Char)
deriving DecidableEq, Repr

/-- How far a script has been split into tokens. -/
structure Splitter where
  /-- What the next character belongs to. -/
  mode : Mode := .plain
  /-- The line, counted from 1. -/
  line : Nat := 1
  /-- The word that has begun, in reverse order. -/
  word : Option (List Piece) := none
  /-- The tokens with their lines, in reverse order. -/
  tokens : List (Nat × Token) := []

namespace Splitter

/-- Adds a token. -/
def emit (s : Splitter) (token : Token) : Splitter :=
  { s with tokens := (s.line, token) :: s.tokens }

/-- Adds a piece to the word. -/
def add (s : Splitter) (piece : Piece) : Splitter :=
  { s with word := some (piece :: s.word.getD []) }

/-- Ends the word, if one has begun. -/
def endWord (s : Splitter) : Splitter :=
  match s.word with
  | some pieces => { s.emit (.word pieces.reverse) with word := none }
  | none => s

/-- The mode outside of names, given whether it is in double quotes. -/
def around (quoted : Bool) : Mode := if quoted then .double else .plain

/-- Takes a character outside of quotes. -/
def plain (s : Splitter) (c : Char) : Splitter :=
  let s := { s with mode := .plain }
  if c = ' ' ∨ c = '\t' then s.endWord
  else if c = '\n' then
    let s := s.endWord.emit .newline
    { s with line := s.line + 1 }
  else if c = '#' ∧ s.word.isNone then { s with mode := .comment }
  else if c = '\'' then { s.add .quotes with mode := .single }
  else if c = '"' then { s.add .quotes with mode := .double }
  else if c = '\\' then { s with mode := .escape false }
  else if c = '$' then { s with mode := .parameter false [] }
  else if c = '>' ∧ s.word = some [.char '2'] then
    { s with mode := .operator ['>', '2'], word := none }
  else if "&|;<>()".toList.contains c then { s.endWord with mode := .operator [c] }
  else s.add (.char c)

/-- Takes a character in double quotes. -/
def double (s : Splitter) (c : Char) : Splitter :=
  let s := { s with mode := .double }
  if c = '"' then { s with mode := .plain }
  else if c = '\\' then { s with mode := .escape true }
  else if c = '$' then { s with mode := .parameter true [] }
  else
    let s := s.add (.char c)
    if c = '\n' then { s with line := s.line + 1 } else s

/-- Takes a character in double quotes or outside of quotes. -/
def take (s : Splitter) (quoted : Bool) (c : Char) : Splitter :=
  if quoted then s.double c else s.plain c

/-- Whether a character can stand in the name of a parameter. -/
def isNameChar (c : Char) : Bool := c.isAlphanum || c = '_'

/-- Ends an operator. -/
def endOperator (s : Splitter) (text : List Char) : Splitter :=
  { s.emit (.operator (String.ofList text.reverse)) with mode := .plain }

/-- Takes a character. -/
def step (s : Splitter) (c : Char) : Splitter :=
  match s.mode with
  | .plain => s.plain c
  | .double => s.double c
  | .comment => if c = '\n' then s.plain c else s
  | .single =>
    if c = '\'' then { s with mode := .plain }
    else
      let s := s.add (.char c)
      if c = '\n' then { s with line := s.line + 1 } else s
  | .escape quoted =>
    let s := { s with mode := around quoted }
    if c = '\n' then { s with line := s.line + 1 }
    else if quoted ∧ ¬ "$\x60\"\\".toList.contains c then (s.add (.char '\\')).add (.char c)
    else (s.add .quotes).add (.char c)
  | .parameter quoted [] =>
    if c = '\x7b' then { s with mode := .braces quoted [] }
    else if c.isDigit ∨ "$?#@*!-".toList.contains c then
      { s.add (.parameter (String.singleton c)) with mode := around quoted }
    else if isNameChar c then { s with mode := .parameter quoted [c] }
    else (s.add (.char '$')).take quoted c
  | .parameter quoted name =>
    if isNameChar c then { s with mode := .parameter quoted (c :: name) }
    else (s.add (.parameter (String.ofList name.reverse))).take quoted c
  | .braces quoted name =>
    if c = '\x7d' then
      { s.add (.parameter (String.ofList name.reverse)) with mode := around quoted }
    else { s with mode := .braces quoted (c :: name) }
  | .operator text =>
    if (text = [c] ∧ c ≠ '(' ∧ c ≠ ')') ∨ (text = ['>', '2'] ∧ c = '>') ∨
        (text.head? = some '>' ∧ c = '&') then s.endOperator (c :: text)
    else (s.endOperator text).plain c

/-- Ends the script. -/
def finish (s : Splitter) : Splitter :=
  match s.mode with
  | .single | .double | .braces .. | .escape true | .parameter true _ => s.emit .unterminated
  | .parameter false [] => (s.add (.char '$')).endWord
  | .parameter false name => (s.add (.parameter (String.ofList name.reverse))).endWord
  | .operator text => s.endOperator text
  | .escape false => (s.add (.char '\\')).endWord
  | .plain | .comment => s.endWord

end Splitter

/-- The tokens of a script with their lines. -/
def tokens (script : List Char) : List (Nat × Token) :=
  (script.foldl Splitter.step {}).finish.tokens.reverse

/-! ### Commands -/

/-- Where the output of a command goes. -/
structure Redirect where
  /-- The operator. -/
  operator : String
  /-- The file. -/
  target : List Piece
deriving DecidableEq, Repr

/-- What ties a command to the one before it. -/
inductive Connector where
  /-- It runs in any case. -/
  | always
  /-- It runs if the other succeeded. -/
  | ifSuccess
  /-- It runs if the other failed. -/
  | ifFailure
deriving DecidableEq, Repr

/-- A command. -/
structure SimpleCommand where
  /-- What ties it to the command before it. -/
  connector : Connector
  /-- Its line. -/
  line : Nat
  /-- Whether success is failure. -/
  negated : Bool := false
  /-- Its words. -/
  words : List (List Piece) := []
  /-- Where its output goes. -/
  redirects : List Redirect := []
deriving DecidableEq, Repr

/-- Whether nothing of a command has been read. -/
def SimpleCommand.isEmpty (c : SimpleCommand) : Bool := c.words.isEmpty && c.redirects.isEmpty

/-- A line that cannot be read: its number, and what is wrong. -/
structure SyntaxFault where
  /-- The line. -/
  line : Nat
  /-- What is wrong. -/
  message : String
deriving DecidableEq, Repr

/-- The connector that an operator stands for. -/
def connector? : String → Option Connector
  | ";" => some .always
  | "&&" => some .ifSuccess
  | "||" => some .ifFailure
  | _ => none

/-- Whether an operator sends output to a file. -/
def isRedirect (operator : String) : Bool :=
  [">", ">>", "<", "2>", "2>>", ">&", "2>&"].contains operator

/-- Reads the commands of a line, of which one has begun. -/
def commands (current : SimpleCommand) :
    List (Nat × Token) → Except SyntaxFault (List SimpleCommand)
  | [] =>
    if ¬ current.isEmpty then .ok [current]
    else if current.connector = .always ∧ ¬ current.negated then .ok []
    else .error ⟨current.line, "end of file unexpected"⟩
  | (_, .word pieces) :: rest =>
    if current.isEmpty ∧ pieces = [.char '!'] then commands { current with negated := true } rest
    else commands { current with words := current.words ++ [pieces] } rest
  | (line, .operator o) :: rest =>
    if isRedirect o then
      match rest with
      | (_, .word target) :: rest =>
        commands { current with redirects := current.redirects ++ [⟨o, target⟩] } rest
      | _ => .error ⟨line, "newline unexpected"⟩
    else match connector? o with
      | none => .error ⟨line, "\"" ++ o ++ "\" unexpected"⟩
      | some connector =>
        if current.isEmpty then .error ⟨line, "\"" ++ o ++ "\" unexpected"⟩
        else do return current :: (← commands { connector, line } rest)
  | (line, .unterminated) :: _ => .error ⟨line, "Unterminated quoted string"⟩
  | (_, .newline) :: rest => commands current rest

/-- Whether a line goes on after this token. -/
def goesOn : Token → Bool
  | .operator o => o == "&&" || o == "||"
  | _ => false

/-- The lines of a script. A line that ends in `&&` or `||` goes on. -/
def lines (current : List (Nat × Token)) : List (Nat × Token) → List (List (Nat × Token))
  | [] => [current.reverse]
  | (_, .newline) :: rest =>
    if current.head?.any (goesOn ·.2) then lines current rest
    else current.reverse :: lines [] rest
  | token :: rest => lines (token :: current) rest

/-! ### Running -/

/-- The state of a running script. -/
structure State where
  /-- The path of the script, which stands before its complaints. -/
  name : String
  /-- The arguments of the script. -/
  args : List String
  /-- The values of parameters. -/
  settings : List (String × String) := []
  /-- The code of the last command. -/
  status : Int := 0
  /-- How the script ended, once it has. -/
  ended : Option Exit := none
  /-- The file tree. -/
  tree : FileTree
  /-- What was printed to standard output. -/
  out : String := ""
  /-- What was printed to standard error. -/
  err : String := ""

namespace State

/-- A number that no other program has. -/
def ownProcess : String := "1000"

/-- The value of a parameter. -/
def value (s : State) (name : String) : String :=
  match name with
  | "$" => ownProcess
  | "?" => toString s.status
  | "#" => toString s.args.length
  | "@" | "*" => String.intercalate " " s.args
  | "0" => s.name
  | name =>
    match name.toNat? with
    | some n => s.args.getD (n - 1) ""
    | none => (s.settings.lookup name).getD ""

/-- The text that a piece of a word stands for. -/
def expandPiece (s : State) : Piece → String
  | .char c => String.singleton c
  | .quotes => ""
  | .parameter name => s.value name

/-- The text that a word stands for; none if nothing is left of it. -/
def expand? (s : State) (pieces : List Piece) : Option String :=
  let text := String.join (pieces.map s.expandPiece)
  if text = "" ∧ .quotes ∉ pieces then none else some text

/-- A variable and its new value, if a word has that form. -/
def assignment? (s : State) (pieces : List Piece) : Option (String × String) :=
  let start := pieces.takeWhile (· != .char '=')
  let name := start.filterMap fun | .char c => some c | _ => none
  match pieces.drop start.length with
  | _ :: value =>
    if name.length = start.length ∧ name.all Splitter.isNameChar ∧ name ≠ [] ∧
        ¬ (name.head?.any Char.isDigit) then
      some (String.ofList name, String.join (value.map s.expandPiece))
    else none
  | [] => none

/-- A complaint of the shell on a line. -/
def complain (s : State) (line : Nat) (message : String) : State :=
  { s with err := s.err ++ s!"{s.name}: {line}: {message}\n" }

/-- Ends the script with a code, of which eight bits are kept. -/
def exit (s : State) (code : Int) : State := { s with ended := some (.code (code % 256)) }

/-- Sends the script a signal; a few do not end it. -/
def kill (s : State) (signal : String) : State :=
  if ["0", "17", "18", "23", "28", "CHLD", "CONT", "URG", "WINCH"].contains signal then
    { s with status := 0 }
  else { s with ended := some .signal }

/-- Runs a command by its words. -/
def perform (s : State) (line : Nat) : List String → State
  | [] => s
  | [":"] => { s with status := 0 }
  | ":" :: _ | "set" :: _ | "export" :: _ | "wait" :: _ => { s with status := 0 }
  | ["exit"] => s.exit s.status
  | "exit" :: code :: _ =>
    match code.toNat? with
    | some n => s.exit n
    | none => (s.complain line ("exit: Illegal number: " ++ code)).exit 2
  | ["kill", target] =>
    if target = ownProcess then s.kill "15" else { s with status := 1 }
  | ["kill", "-s", signal, target] =>
    if target = ownProcess then s.kill signal else { s with status := 1 }
  | ["kill", signal, target] =>
    if target = ownProcess then s.kill (String.ofList (signal.toList.dropWhile (· == '-')))
    else { s with status := 1 }
  | ["echo", "-n", text] => { s with out := s.out ++ text, status := 0 }
  | "[" :: condition =>
    match condition.getLast? with
    | some "]" =>
      { s with status := ((Tool.test condition.dropLast s.tree).exit.code?).getD 2 }
    | _ => { s.complain line "[: missing ]" with status := 2 }
  | name :: args =>
    match tool? name with
    | none => { s.complain line (name ++ ": not found") with status := 127 }
    | some tool =>
      let o := tool args s.tree
      { s with
        status := o.exit.code?.getD 1, tree := o.tree, out := s.out ++ o.out,
        err := s.err ++ o.err }

/-- The bytes that are in a file before something is appended to it. -/
def contentBefore (s : State) (operator target : String) : ByteArray :=
  if operator.endsWith ">>" then ((s.tree.readBytes ⟨target⟩).toOption).getD ⟨#[]⟩ else ⟨#[]⟩

/-- Sends what a command printed, `out` and `err`, where it is to go. -/
def send (s : State) (line : Nat) (out err : String) : List Redirect → State
  | [] => { s with out := s.out ++ out, err := s.err ++ err }
  | ⟨operator, pieces⟩ :: rest =>
    let target := (s.expand? pieces).getD ""
    if operator = "<" then s.send line out err rest
    else if operator = ">&" then
      if target = "2" then s.send line "" (err ++ out) rest else s.send line out err rest
    else if operator = "2>&" then
      if target = "1" then s.send line (out ++ err) "" rest else s.send line out err rest
    else
      let isErr := operator.startsWith "2"
      let printed := if isErr then err else out
      let s :=
        if target = "/dev/null" then s
        else match s.tree.write ⟨target⟩ (s.contentBefore operator target ++ printed.toUTF8) with
          | .ok tree => { s with tree }
          | .error _ => { s.complain line ("cannot create " ++ target) with status := 2 }
      if isErr then s.send line out "" rest else s.send line "" err rest

/-- Runs a command, unless the script has ended or the command is passed over. -/
def runCommand (s : State) (c : SimpleCommand) : State :=
  let skipped : Bool :=
    match c.connector with
    | .always => false
    | .ifSuccess => s.status ≠ 0
    | .ifFailure => s.status = 0
  if s.ended.isSome ∨ skipped then s
  else
    let values := c.words.map s.assignment?
    if c.words ≠ [] ∧ values.all Option.isSome then
      { s with settings := values.reduceOption ++ s.settings, status := 0 }
    else
      let before := (s.out, s.err)
      let after := { s with out := "", err := "" }.perform c.line (c.words.filterMap s.expand?)
      let (out, err) := (after.out, after.err)
      let s := { after with out := before.1, err := before.2 }.send c.line out err c.redirects
      if c.negated then { s with status := if s.status = 0 then 1 else 0 } else s

/-- Runs the lines of a script until it ends. -/
def runLines (s : State) : List (List (Nat × Token)) → State
  | [] => s
  | line :: rest =>
    if s.ended.isSome then s
    else match commands ⟨.always, (line.head?.map (·.1)).getD 1, false, [], []⟩ line with
      | .ok cs => (cs.foldl runCommand s).runLines rest
      | .error fault => (s.complain fault.line ("Syntax error: " ++ fault.message)).exit 2

end State

/-- Runs a script. -/
def runScript (name : String) (args : List String) (script : List Char) (tree : FileTree) :
    Outcome :=
  let s := ({ name, args, tree : State }).runLines (lines [] (tokens script))
  { exit := s.ended.getD (.code s.status), tree := s.tree, out := s.out, err := s.err }

/-- Options that say nothing here. -/
def idleOptions : List Char := "efnIimsVEvxabu".toList

/-- The shell as a program: the script is its first argument that is no option. -/
def run (args : List String) (tree : FileTree) : Outcome :=
  match args with
  | [] => { exit := .code 0, tree }
  | arg :: rest =>
    match arg.toList with
    | '-' :: c :: letters =>
      match (c :: letters).find? (!idleOptions.contains ·) with
      | none => run rest tree
      | some 'c' => match rest with
        | script :: args => runScript "sh" args script.toList tree
        | [] => { exit := .code 2, tree, err := "sh: 0: -c requires an argument\n" }
      | some 'o' =>
        { exit := .code 2, tree, err := "sh: 0: Illegal option -o " ++ rest.headD "" ++ "\n" }
      | some bad =>
        { exit := .code 2, tree, err := "sh: 0: Illegal option -" ++ String.singleton bad ++ "\n" }
    | _ =>
      match tree.readBytes ⟨arg⟩ with
      | .ok content => runScript arg rest (Text.shown content).toList tree
      | .error .isDirectory => { exit := .code 0, tree }
      | .error _ =>
        { exit := .code 2, tree, err := "sh: 0: cannot open " ++ arg ++ ": No such file\n" }

end PlotDeck.Shell

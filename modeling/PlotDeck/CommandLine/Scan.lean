/-!
# Scanning a command line

A command line is a sequence of **arguments**. An argument with two hyphens names an option, of
which some are flags and others take a value, written after an equals sign or as the next argument;
an argument with one hyphen is a row of one-letter flags; all other arguments, and all that follow a
bare `--`, are operands. A lone hyphen is an operand or a value.
-/

namespace PlotDeck.CommandLine

/-- What an option takes. -/
inductive Arity where
  /-- Nothing. -/
  | flag
  /-- A text. -/
  | text
  /-- A path, which cannot be empty. -/
  | path
deriving DecidableEq, Repr

/-- An option that a command understands. -/
structure OptionSpec where
  /-- Its name, without the hyphens. -/
  name : String
  /-- What it takes. -/
  arity : Arity
  /-- Whether it may be given more than once. -/
  repeatable : Bool := false
deriving DecidableEq, Repr

/-- Why a command line is answered with the usage text. -/
inductive UsageReply where
  /-- The user asked for it. -/
  | asked
  /-- There is no command. -/
  | missingCommand
  /-- There is no command of that name. -/
  | unknownCommand (name : String)
  /-- There is no such option. -/
  | unknownOption (option : String)
  /-- An option that can be given once was given again. -/
  | repeatedOption (option : String)
  /-- An option lacks its value. -/
  | missingValue (option : String)
  /-- A flag was given a value. -/
  | unexpectedValue (option : String)
  /-- There is an operand too many. -/
  | extraOperand (operand : String)
  /-- Something that is required was not given. -/
  | missing (what : String)
  /-- Two options exclude each other. -/
  | conflict (option other : String)
deriving DecidableEq, Repr

/-- The text of a reply. -/
def UsageReply.message : UsageReply → String
  | asked => ""
  | missingCommand => "a command is required"
  | unknownCommand name => "unknown command '" ++ name ++ "'"
  | unknownOption option => "unknown option '" ++ option ++ "'"
  | repeatedOption option => "'" ++ option ++ "' cannot be given twice"
  | missingValue option => "'" ++ option ++ "' requires a value"
  | unexpectedValue option => "'" ++ option ++ "' takes no value"
  | extraOperand operand => "unexpected argument '" ++ operand ++ "'"
  | missing what => what ++ " is required"
  | conflict option other => "'" ++ option ++ "' and '" ++ other ++ "' exclude each other"

/-- What was found on a command line. -/
structure Found where
  /-- The operands in order. -/
  operands : List String := []
  /-- The flags that were given. -/
  flags : List String := []
  /-- The options with values, in order. -/
  values : List (String × String) := []
deriving DecidableEq, Repr

namespace Found

/-- Whether a flag was given. -/
def hasFlag (f : Found) (name : String) : Bool := f.flags.contains name

/-- All values that an option was given. -/
def valuesOf (f : Found) (name : String) : List String :=
  f.values.filterMap fun (other, value) => if other = name then some value else none

/-- The value that an option was given. -/
def value? (f : Found) (name : String) : Option String := (f.valuesOf name).head?

/-- Adds a flag. -/
def addFlag (f : Found) (name : String) : Except UsageReply Found :=
  if f.hasFlag name then .error (.repeatedOption ("--" ++ name))
  else .ok { f with flags := f.flags ++ [name] }

/-- Adds the value of an option. -/
def addValue (f : Found) (spec : OptionSpec) (value : String) : Except UsageReply Found :=
  if spec.arity = .path ∧ value = "" then .error (.missingValue ("--" ++ spec.name))
  else if ¬ spec.repeatable ∧ (f.value? spec.name).isSome then
    .error (.repeatedOption ("--" ++ spec.name))
  else .ok { f with values := f.values ++ [(spec.name, value)] }

/-- Adds an operand, of which there are at most `limit`. Operands are paths and cannot be empty. -/
def addOperand (f : Found) (limit : Nat) (operand : String) : Except UsageReply Found :=
  if f.operands.length ≥ limit then .error (.extraOperand operand)
  else if operand = "" then .error (.missing "a path")
  else .ok { f with operands := f.operands ++ [operand] }

/-- Adds a row of one-letter flags. -/
def addLetters (f : Found) : List Char → Except UsageReply Found
  | [] => .ok f
  | 'v' :: rest => do (← f.addFlag "verbose").addLetters rest
  | 'h' :: _ => .error .asked
  | c :: _ => .error (.unknownOption (String.ofList ['-', c]))

end Found

/-- Whether an argument starts with a hyphen and more, so that it is no value. -/
def isOption (arg : String) : Bool :=
  match arg.toList with
  | '-' :: _ :: _ => true
  | _ => false

/-- Splits what follows two hyphens into the name of an option and the value after an equals
sign. -/
def splitOption (arg : List Char) : String × Option String :=
  let name := String.ofList (arg.takeWhile (· != '='))
  match arg.dropWhile (· != '=') with
  | _ :: value => (name, some (String.ofList value))
  | [] => (name, none)

/-- Scans arguments that may hold some options and up to `limit` operands. -/
def scan (specs : List OptionSpec) (limit : Nat) (f : Found) :
    List String → Except UsageReply Found
  | [] => .ok f
  | arg :: rest =>
    match arg.toList with
    | ['-', '-'] => rest.foldlM (·.addOperand limit) f
    | '-' :: '-' :: letters =>
      let (name, value?) := splitOption letters
      if name = "help" then
        .error (if value?.isSome then .unexpectedValue "--help" else .asked)
      else match specs.find? (·.name = name), value?, rest with
        | none, _, _ => .error (.unknownOption arg)
        | some ⟨_, .flag, _⟩, some _, _ => .error (.unexpectedValue ("--" ++ name))
        | some ⟨_, .flag, _⟩, none, rest => do scan specs limit (← f.addFlag name) rest
        | some spec, some value, rest => do scan specs limit (← f.addValue spec value) rest
        | some _, none, [] => .error (.missingValue ("--" ++ name))
        | some spec, none, value :: rest =>
          if isOption value then .error (.missingValue ("--" ++ name))
          else do scan specs limit (← f.addValue spec value) rest
    | '-' :: c :: letters => do scan specs limit (← f.addLetters (c :: letters)) rest
    | _ => do scan specs limit (← f.addOperand limit arg) rest

end PlotDeck.CommandLine

/-!
# Asking for a lower priority

The arguments of the program that starts another one at a lower priority: options that say how much
lower, and the command behind them. The adjustment that is given last counts. Arguments that cannot
be used end the program before it starts anything.
-/

namespace PlotDeck.Priority

/-! ### Refusals -/

/-- Why the program ends without starting another. -/
inductive Refusal where
  /-- It was asked about itself. -/
  | question
  /-- An option has a letter that means nothing. -/
  | unknownLetter (c : Char)
  /-- An option has a long name that means nothing. -/
  | unknownName (text : String)
  /-- A long name is short for several. -/
  | ambiguousName (text : String) (names : List String)
  /-- An option has a value that it cannot have. -/
  | needlessValue (name : String)
  /-- An option with a letter is not followed by its value. -/
  | noValueForLetter (c : Char)
  /-- An option with a long name is not followed by its value. -/
  | noValueForName (name : String)
  /-- An adjustment is no whole number. -/
  | badAdjustment (text : String)
  /-- There is an adjustment but no command. -/
  | noCommand
deriving DecidableEq, Repr

namespace Refusal

/-- The code that the program ends with. -/
def code : Refusal → Int
  | question => 0
  | _ => 125

/-- What is wrong, and whether a hint follows. -/
def complaint : Refusal → Option (String × Bool)
  | question => none
  | unknownLetter c => some ("invalid option -- '" ++ String.singleton c ++ "'", true)
  | unknownName text => some ("unrecognized option '--" ++ text ++ "'", true)
  | ambiguousName text names =>
    some ("option '--" ++ text ++ "' is ambiguous; possibilities:" ++
      String.join (names.map fun name => " '--" ++ name ++ "'"), true)
  | needlessValue name => some ("option '--" ++ name ++ "' doesn't allow an argument", true)
  | noValueForLetter c =>
    some ("option requires an argument -- '" ++ String.singleton c ++ "'", true)
  | noValueForName name => some ("option '--" ++ name ++ "' requires an argument", true)
  | badAdjustment text => some ("invalid adjustment '" ++ text ++ "'", false)
  | noCommand => some ("a command must be given with an adjustment", true)

/-- What the program prints. -/
def message (r : Refusal) : String :=
  match r.complaint with
  | none => ""
  | some (text, hint) =>
    "nice: " ++ text ++ "\n" ++
      (if hint then "Try 'nice --help' for more information.\n" else "")

end Refusal

/-! ### Arguments -/

/-- What an argument in front of the command is. -/
inductive Argument where
  /-- The start of the command. -/
  | command
  /-- The end of the options. -/
  | optionsEnd
  /-- An adjustment of the priority. -/
  | adjustment (text : String)
  /-- An option that says that the next argument is an adjustment; without one it is refused. -/
  | adjustmentFollows (otherwise : Refusal)
  /-- An option that ends the program. -/
  | refused (r : Refusal)
deriving DecidableEq, Repr

namespace Argument

/-- The long names of options. -/
def longNames : List String := ["adjustment", "help", "version"]

/-- An option with a long name, which may be cut short, and perhaps a value behind an equals
sign. -/
def ofLong (text : List Char) : Argument :=
  let name := text.takeWhile (· != '=')
  match longNames.filter fun long => name.isPrefixOf long.toList, text.dropWhile (· != '=') with
  | ["adjustment"], _ :: value => adjustment (String.ofList value)
  | ["adjustment"], [] => adjustmentFollows (.noValueForName "adjustment")
  | [_], [] => refused .question
  | [long], _ => refused (.needlessValue long)
  | [], _ => refused (.unknownName (String.ofList text))
  | names, _ => refused (.ambiguousName (String.ofList text) names)

/-- Drops a sign. -/
def dropSign : List Char → List Char
  | '+' :: r | '-' :: r => r
  | t => t

/-- What an argument is by its text. A dash alone is no option, and a dash and a number, which may
have a sign, is an adjustment. -/
def ofText : List Char → Argument
  | ['-'] => command
  | ['-', '-'] => optionsEnd
  | '-' :: text =>
    if ((dropSign text).head?.map Char.isDigit).getD false then adjustment (String.ofList text)
    else
      match text with
      | ['n'] => adjustmentFollows (.noValueForLetter 'n')
      | 'n' :: value => adjustment (String.ofList value)
      | '-' :: long => ofLong long
      | c :: _ => refused (.unknownLetter (if c.toNat < 0x80 then c else '\ufffd'))
      | [] => command
  | _ => command

end Argument

/-! ### Requests -/

/-- What the arguments ask for. -/
structure Request where
  /-- The adjustment of the priority. -/
  adjustment : Option String
  /-- The command with its arguments. -/
  command : List String
deriving DecidableEq, Repr

namespace Request

/-- Reads arguments, given the adjustment so far. -/
def read (adjustment : Option String) : List String → Except Refusal Request
  | [] => .ok ⟨adjustment, []⟩
  | arg :: rest =>
    match Argument.ofText arg.toList with
    | .command => .ok ⟨adjustment, arg :: rest⟩
    | .optionsEnd => .ok ⟨adjustment, rest⟩
    | .adjustment text => read (some text) rest
    | .adjustmentFollows otherwise =>
      match rest with
      | [] => .error otherwise
      | text :: rest => read (some text) rest
    | .refused r => .error r

/-- Whether a text is a whole number, perhaps with blanks and a sign before it. -/
def isWhole (t : List Char) : Bool :=
  let blanks := [' ', '\t', '\n', '\x0b', '\x0c', '\r']
  let digits := Argument.dropSign (t.dropWhile (blanks.contains ·))
  digits != [] && digits.all Char.isDigit

/-- What arguments ask for. An adjustment is a whole number, and of no use without a command. -/
def ofArgs (args : List String) : Except Refusal Request := do
  let r ← read none args
  match r.adjustment with
  | none => return r
  | some text =>
    if !isWhole text.toList then .error (.badAdjustment text)
    else if r.command = [] then .error .noCommand
    else return r

end Request

end PlotDeck.Priority

import PlotDeck.Toml.Moment
import PlotDeck.Toml.Node
import PlotDeck.Toml.Number

/-!
# TOML values

Keys and the values behind them. Values may be nested in brackets and braces, but not too deeply:
the number given to `value` is how many levels are left.
-/

namespace PlotDeck.Toml

open PlotDeck.Toml.Parser

/-- How many levels of brackets and braces, and how many steps of a key, are too many. -/
def tooMany : Nat := 80

/-- Where a parser started and stopped. -/
def located {α : Type} (p : Parser α) : Parser (α × Region) := fun t =>
  match p t with
  | .ok a r => .ok (a, ⟨t, r⟩) r
  | .declined f => .declined f
  | .refused f => .refused f

/-! ### Keys -/

/-- A character of a key without quotes. -/
def isBare (c : Char) : Bool := c.isAlphanum || c == '_' || c == '-'

/-- A character in quotes, with an escape where it needs one. -/
def writtenChar (c : Char) : List Char :=
  if c = '\x08' then ['\\', 'b']
  else if c = '\t' then ['\\', 't']
  else if c = '\n' then ['\\', 'n']
  else if c = '\x0c' then ['\\', 'f']
  else if c = '\r' then ['\\', 'r']
  else if c = '"' then ['\\', '"']
  else if c = '\\' then ['\\', '\\']
  else if isShown c then [c]
  else
    let ds := (Nat.toDigits 16 c.toNat).map Char.toUpper
    '\\' :: 'u' :: List.replicate (4 - ds.length) '0' ++ ds

/-- The plainest way to write a key: bare if possible, else in the quotes that need no escapes, else
in double quotes with escapes. -/
def writtenKey (name : String) : String :=
  let cs := name.toList
  let quoted (quote : Char) (body : List Char) := String.ofList (quote :: body ++ [quote])
  if !cs.isEmpty && cs.all isBare then name
  else if cs.all isBasic then quoted '"' cs
  else if cs.all isLiteral then quoted '\'' cs
  else quoted '"' (cs.flatMap writtenChar)

/-- One step of a key. -/
def keyStep : Parser Key := do
  let (name, region) ← located <| (look any).andThen fun c =>
    if c = '"' then basicString else if c = '\'' then literalString else takeSome isBare
  return ⟨String.ofList name, region⟩

/-- A key: its steps, at least one. -/
def key : Parser (List Key) :=
  Parser.check
    (p := label "key" do
      separatedSome
        (do
          let _ ← blanks
          let step ← keyStep
          let _ ← blanks
          return step)
        (char '.') (← size))
    fun steps => if tooMany ≤ steps.length then .error .tooDeep else .ok steps

/-- The sign between a key and its value. -/
def equals : Parser Unit :=
  expectSign "=" <| expectSign "." do
    let _ ← char '='
    return ()

/-! ### Values -/

/-- Says that nothing here starts a value; a string is what is most often meant. -/
def orString {α : Type} (p : Parser α) : Parser α :=
  ((p.label "string").expectSign "\"").expectSign "'"

/-- A value that starts with a sign or a digit. -/
def numeral : Parser Scalar :=
  Parser.orElse (do moment; return .moment) <|
    Parser.orElse (do return .float (← float)) (do return .integer (← integer))

/-- A value without parts. -/
def scalar : Parser Scalar := do
  let c ← look any
  if c = '"' ∨ c = '\'' then return .text (String.ofList (← string))
  else if c = '+' ∨ c = '-' ∨ c.isDigit then numeral
  else if c = '_' then expect "leading digit" do return .integer (← integer)
  else if c = '.' then expect "leading digit" do return .float (← float)
  else orString do
    if c = 't' then
      let _ ← (word "true".toList).commit
      return .flag true
    else if c = 'f' then
      let _ ← (word "false".toList).commit
      return .flag false
    else if c = 'i' ∨ c = 'n' then return .float (← specialFloat)
    else decline

/-- The values of a list, up to its closing bracket. A comma may follow the last one. -/
def arrayItems (item : Parser Node) : Parser (List Node) := fun t =>
  match t with
  | ']' :: _ => .ok [] t
  | _ => (do
      let items ← separated
        (do
          gap
          let value ← item
          gap
          return value)
        (char ',') (← size)
      if !items.isEmpty then
        let _ ← (char ',').optional
      gap
      return items) t

/-- The key and value of an entry in braces. -/
def inlineEntry (item : Parser Node) : Parser (List Key × Node) := do
  let steps ← key
  commit do
    equals
    let _ ← blanks
    let value ← item
    let _ ← blanks
    return (steps, value)

/-- The table that entries in braces make. -/
def inlineTable (entries : List (List Key × Node)) : Except Cause Node :=
  entries.foldlM
    (fun node (steps, value) =>
      match steps.getLast? with
      | some last => node.putAt .inlineKey steps.dropLast last value none
      | none => .ok node)
    (.table .inline [] none)

/-- A value in a list or table, with so many levels left. -/
def value : Nat → Parser Node := fun depth t =>
  match t with
  | '[' :: r =>
    match depth with
    | 0 => .refused { cause := some .tooDeep, rest := t }
    | depth + 1 =>
      (do
        let items ← (arrayItems (value depth)).commit
        let _ ← label "array" <| (char ']').commit.expectSign "]"
        fun u => .ok (Node.array items ⟨t, u⟩) u) r
  | '\x7b' :: r =>
    match depth with
    | 0 => .refused { cause := some .tooDeep, rest := t }
    | depth + 1 =>
      (do
        let node ← commit <| Parser.check
          (p := do
            let entries ← separated (inlineEntry (value depth)) (char ',') (← size)
            let _ ← blanks
            return entries)
          inlineTable
        let _ ← label "inline table" <| (char '\x7d').commit.expectSign "\x7d"
        fun u => match node with
          | .table origin entries _ => .ok (Node.table origin entries (some ⟨t, u⟩)) u
          | _ => .ok node u) r
  | _ =>
    match located scalar t with
    | .ok (s, region) r => .ok (.scalar s region) r
    | .declined f => .declined f
    | .refused f => .refused f

end PlotDeck.Toml

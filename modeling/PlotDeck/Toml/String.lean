import PlotDeck.Toml.Parser

/-!
# TOML space and strings

Blanks, comments and line ends, and the four kinds of string: basic strings with escapes and literal
strings without, each on one line or over several.
-/

namespace PlotDeck.Toml

open PlotDeck.Toml.Parser

/-- The digits of a number in a base up to sixteen. -/
def isDigitOf (base : Nat) (c : Char) : Bool :=
  let n := c.toNat
  if c.isDigit then n - 48 < base
  else base = 16 && ((97 ≤ n && n ≤ 102) || (65 ≤ n && n ≤ 70))

/-- The number that digits write. -/
def valueOf (base : Nat) (ds : List Char) : Nat :=
  ds.foldl (fun n c =>
    let k := c.toNat
    n * base + (if c.isDigit then k - 48 else if 97 ≤ k then k - 87 else k - 55)) 0

/-! ### Space -/

/-- A blank. -/
def isBlank (c : Char) : Bool := c == ' ' || c == '\t'

/-- A character that is no control character, or a tab. -/
def isShown (c : Char) : Bool := c == '\t' || (0x20 ≤ c.toNat && c.toNat != 0x7F)

/-- Blanks. -/
def blanks : Parser (List Char) := takeWhile isBlank

/-- The end of a line: a line feed, perhaps with a carriage return before it. -/
def newline : Parser Unit := do
  let c ← any
  if c = '\n' then return ()
  else if c = '\r' then
    let _ ← char '\n'
    return ()
  else decline

/-- The end of a line or of the text. -/
def lineEnd : Parser Unit := newline.orElse atEnd

/-- A comment. -/
def comment : Parser Unit := do
  let _ ← char '#'
  let _ ← takeWhile isShown
  return ()

/-- What may stand behind the last part of a line. -/
def lineRest : Parser Unit := do
  let _ ← blanks
  let _ ← comment.optional
  lineEnd

/-- Blanks, line ends and comments. -/
def gapWith : Nat → Parser Unit
  | 0 => pure ()
  | fuel + 1 => do
    let _ ← blanks
    match ← (look any).optional with
    | some '#' =>
      comment
      newline
      gapWith fuel
    | some '\n' | some '\r' =>
      newline
      gapWith fuel
    | _ => pure ()

/-- Blanks, line ends and comments. -/
def gap : Parser Unit := do gapWith (← size)

/-- Blanks and line ends. -/
def space : Parser Unit := do
  let _ ← many (newline.orElse do let _ ← takeSome isBlank; return ()) (← size)
  return ()

/-! ### Escapes -/

/-- The characters that may follow a backslash, in the order in which they are named. -/
def escapes : List String := ["b", "f", "n", "r", "t", "u", "U", "\\", "\""]

/-- A character written by its number in `n` hexadecimal digits. -/
def hexEscape (n : Nat) : Parser Char :=
  (takeExactly n (isDigitOf 16)).check fun ds =>
    let k := valueOf 16 ds
    if Nat.isValidChar k then .ok (Char.ofNat k) else .error .outOfRange

/-- No escape: the fault lies behind the character, or at it if it takes more than one byte. -/
def badEscape (c : Char) : Parser Char := fun t =>
  .refused {
    label := some "escape sequence"
    expected := escapes.map fun e => "\x60" ++ e ++ "\x60"
    rest := if c.toNat < 0x80 then t else c :: t }

/-- What follows a backslash. -/
def escapeBody : Parser Char := do
  match ← any with
  | 'b' => return '\x08'
  | 'f' => return '\x0c'
  | 'n' => return '\n'
  | 'r' => return '\r'
  | 't' => return '\t'
  | '\\' => return '\\'
  | '"' => return '"'
  | 'u' => (hexEscape 4).commit.label "unicode 4-digit hex code"
  | 'U' => (hexEscape 8).commit.label "unicode 8-digit hex code"
  | c => badEscape c

/-- An escape. -/
def escaped : Parser Char := do
  let _ ← char '\\'
  escapeBody

/-! ### Strings -/

/-- A character of a basic string that stands for itself. -/
def isBasic (c : Char) : Bool := isShown c && c != '"' && c != '\\'

/-- A character of a literal string. -/
def isLiteral (c : Char) : Bool := isShown c && c != '\''

/-- A part of a basic string. -/
def basicPart : Parser (List Char) :=
  (takeSome isBasic).orElse do return [← escaped]

/-- A basic string. -/
def basicString : Parser (List Char) := do
  let _ ← char '"'
  let parts ← many basicPart (← size)
  let _ ← (char '"').commit.label "basic string"
  return parts.flatten

/-- A literal string. -/
def literalString : Parser (List Char) :=
  label "literal string" do
    let _ ← char '\''
    let t ← takeWhile isLiteral
    let _ ← (char '\'').commit
    return t

/-- A backslash at the end of a line, with all space after it. -/
def joinLines : Parser (List Char) := do
  let _ ← char '\\'
  let _ ← blanks
  newline
  space
  return []

/-- A part of a basic string over several lines. -/
def longBasicPart : Parser (List Char) :=
  (takeSome isBasic).orElse <| joinLines.orElse <|
    Parser.orElse (do return [← escaped]) do
      newline
      return ['\n']

/-- A part of a literal string over several lines. -/
def longLiteralPart : Parser (List Char) :=
  (takeSome isLiteral).orElse do
    newline
    return ['\n']

/-- Any character but a given one. -/
def other (quote : Char) : Parser Unit := do
  if (← any) = quote then decline else return ()

/-- One or two quotes that belong to a string over several lines, because the given parser applies
behind them. -/
def quotesBefore (quote : Char) (next : Parser Unit) : Parser (List Char) :=
  Parser.orElse
    (do let w ← word [quote, quote]; look next; return w)
    (do let w ← word [quote]; look next; return w)

/-- The body of a string over several lines, given what has to follow quotes inside it. -/
def longBody (quote : Char) (part : Parser (List Char)) (inside : Parser Unit) :
    Parser (List Char) := do
  let n ← size
  let start ← many part n
  let more ← many (do
    let quotes ← quotesBefore quote inside
    let parts ← many part n
    return quotes ++ parts.flatten) n
  let last ← (quotesBefore quote (do let _ ← word [quote, quote, quote]; return ())).optional
  return start.flatten ++ more.flatten ++ last.getD []

/-- A string over several lines. A line end right behind the opening quotes is not part of it. -/
def longString (quote : Char) (what : String) (part : Parser (List Char)) (inside : Parser Unit) :
    Parser (List Char) :=
  label what do
    let _ ← word [quote, quote, quote]
    let _ ← newline.optional
    let body ← (longBody quote part inside).commit
    let _ ← (word [quote, quote, quote]).commit
    return body

/-- A basic string over several lines. Quotes belong to it as soon as another character follows,
even one that may not stand in it. -/
def longBasicString : Parser (List Char) :=
  longString '"' "multiline basic string" longBasicPart (other '"')

/-- A literal string over several lines. Quotes belong to it if a part of it follows. -/
def longLiteralString : Parser (List Char) :=
  longString '\'' "multiline literal string" longLiteralPart do
    let _ ← longLiteralPart
    return ()

/-- A string of any kind. -/
def string : Parser (List Char) :=
  longBasicString.orElse <| basicString.orElse <| longLiteralString.orElse literalString

end PlotDeck.Toml

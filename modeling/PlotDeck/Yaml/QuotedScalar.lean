import PlotDeck.Yaml.Token

/-!
# Quoted scalars

A scalar in single quotes, where a quote is written twice, or in double quotes with escapes. Over
several lines its gaps are folded like those of a plain scalar; a backslash at the end of a line
takes the line end away.
-/

namespace PlotDeck.Yaml

/-- The character that a letter behind a backslash stands for. -/
def simpleEscape? : Char → Option Char
  | '0' => some '\x00'
  | 'a' => some '\x07'
  | 'b' => some '\x08'
  | 't' | '\t' => some '\t'
  | 'n' => some '\n'
  | 'v' => some '\x0b'
  | 'f' => some '\x0c'
  | 'r' => some '\r'
  | 'e' => some '\x1b'
  | ' ' => some ' '
  | '"' => some '"'
  | '/' => some '/'
  | '\\' => some '\\'
  | 'N' => some '\x85'
  | '_' => some '\xa0'
  | 'L' => some '\u2028'
  | 'P' => some '\u2029'
  | _ => none

/-- How many digits of a character's number follow a letter behind a backslash. -/
def escapeDigits? : Char → Option Nat
  | 'x' => some 2
  | 'u' => some 4
  | 'U' => some 8
  | _ => none

/-- Reads a character by its number. The cursor stands at the digits. -/
def numberedEscape (start : Mark) (count : Nat) (c : Cursor) : Except Fault (Char × Cursor) :=
  let ds := c.rest.take count
  if ds.length < count || !ds.all isHex then c.fail .escape start .missingHexDigit
  else
    let n := ds.foldl (fun n d => n * 16 + hexValue d) 0
    if Nat.isValidChar n then .ok (Char.ofNat n, c.drop count)
    else c.fail .escape start .badCodePoint

/-- Reads an escape. The cursor stands at the backslash. -/
def escape (start : Mark) (c : Cursor) : Except Fault (Char × Cursor) :=
  match c.ahead 1 with
  | none => c.fail .escape start .unknownEscape
  | some x =>
    match simpleEscape? x, escapeDigits? x with
    | some y, _ => .ok (y, c.drop 2)
    | none, some count => numberedEscape start count (c.drop 2)
    | none, none => c.fail .escape start .unknownEscape

/-- Reads up to a gap, the closing quote or the end of the text: what was read, and whether a line
end was taken away behind it. -/
def quotedWord (single : Bool) (start : Mark) :
    Nat → Cursor → List Char → Except Fault (List Char × Bool × Cursor)
  | 0, c, acc => .ok (acc.reverse, false, c)
  | fuel + 1, c, acc =>
    match c.rest with
    | [] => .ok (acc.reverse, false, c)
    | x :: _ =>
      if isGap x then .ok (acc.reverse, false, c)
      else if single then
        if x != '\'' then quotedWord single start fuel (c.drop 1) (x :: acc)
        else if c.isAt 1 '\'' then quotedWord single start fuel (c.drop 2) ('\'' :: acc)
        else .ok (acc.reverse, false, c)
      else if x == '"' then .ok (acc.reverse, false, c)
      else if x != '\\' then quotedWord single start fuel (c.drop 1) (x :: acc)
      else if ((c.ahead 1).map isBreak).getD false then
        .ok (acc.reverse, true, (c.drop 1).skipBreak)
      else do
        let (y, c) ← escape start c
        quotedWord single start fuel c (y :: acc)

/-- Reads words and gaps up to the closing quote. -/
def quotedWords (single : Bool) (start : Mark) :
    Nat → Cursor → List Char → Except Fault (List Char × Cursor)
  | 0, c, text => .ok (text, c)
  | fuel + 1, c, text => do
    if c.atAnyDocument then c.fail .quotedScalar start .documentInQuotes
    else if c.rest = [] then c.fail .quotedScalar start .endInQuotes
    else
      let (word, joined, c) ← quotedWord single start (c.size + 1) c []
      if c.starts (if single then '\'' else '"') then return (text ++ word, c.drop 1)
      else
        let (gap, c) := c.span isGap
        let gap := if joined then breaksOf gap else foldGap gap
        quotedWords single start fuel c (text ++ word ++ gap)

/-- Reads a quoted scalar. The cursor stands at the opening quote. -/
def quotedScalar (single : Bool) (c : Cursor) : Except Fault (List Char × Cursor) :=
  quotedWords single c.mark (c.size + 1) (c.drop 1) []

end PlotDeck.Yaml

import PlotDeck.Yaml.Token

/-!
# Block scalars

A scalar that is written on indented lines of its own behind a sign. The lines are kept as they are,
or joined where both of two neighbours start with a word. What is kept of the line ends behind the
last line is said beside the sign.
-/

namespace PlotDeck.Yaml

/-- What is kept of the line ends behind the last line. -/
inductive Chomping where
  /-- Nothing. -/
  | strip
  /-- One. -/
  | clip
  /-- All. -/
  | keep
deriving DecidableEq, Repr

/-- What is said beside the sign. -/
structure BlockHeader where
  /-- What is kept of the line ends behind the last line. -/
  chomping : Chomping := .clip
  /-- How far the lines are indented, if that is said. -/
  indent : Option Nat := none

/-- Reads a sign for what is kept. -/
def chompingSign (c : Cursor) : Option Chomping × Cursor :=
  if c.starts '+' then (some .keep, c.drop 1)
  else if c.starts '-' then (some .strip, c.drop 1)
  else (none, c)

/-- Reads a digit for the indentation. -/
def indentSign (start : Mark) (c : Cursor) : Except Fault (Option Nat × Cursor) :=
  match c.rest with
  | d :: _ =>
    if d == '0' then c.fail .blockScalar start .zeroIndent
    else if d.isDigit then .ok (some (d.toNat - 48), c.drop 1)
    else .ok (none, c)
  | [] => .ok (none, c)

/-- Reads what is said beside the sign, in either order. -/
def blockHeader (start : Mark) (c : Cursor) : Except Fault (BlockHeader × Cursor) :=
  match chompingSign c with
  | (some chomping, c) => do
    let (indent, c) ← indentSign start c
    return ({ chomping, indent }, c)
  | (none, c) => do
    match ← indentSign start c with
    | (none, c) => return ({}, c)
    | (some indent, c) =>
      let (chomping, c) := chompingSign c
      return ({ chomping := chomping.getD .clip, indent := some indent }, c)

/-- The empty lines before a line. -/
structure EmptyLines where
  /-- Their ends. -/
  breaks : List Char := []
  /-- The furthest indentation among them and the line. -/
  widest : Nat := 0
  /-- Where the last of them ends. -/
  stop : Mark

/-- Reads empty lines and the indentation of the next. Where the indentation is not known yet, it is
as far as the line goes. -/
def emptyLines (indent : Option Nat) (start : Mark) :
    Nat → Cursor → EmptyLines → Except Fault (EmptyLines × Cursor)
  | 0, c, e => .ok (e, c)
  | fuel + 1, c, e =>
    let spaces := (c.rest.takeWhile (· == ' ')).length
    let c := c.drop (match indent with
      | none => spaces
      | some n => min spaces (n - c.mark.column))
    let e := { e with widest := max e.widest c.mark.column }
    let within := (indent.map fun n => decide (c.mark.column < n)).getD true
    if within && c.starts '\t' then c.fail .blockScalar start .tabForIndent
    else if c.sees isBreak then
      let next := c.skipBreak
      let ended := breaksOf (c.rest.take (c.size - next.size))
      emptyLines indent start fuel next { e with breaks := e.breaks ++ ended, stop := next.mark }
    else .ok (e, c)

/-- What has been read of a block scalar. -/
structure BlockScalar where
  /-- Its text. -/
  text : List Char := []
  /-- The end of its last line. -/
  lastBreak : List Char := []
  /-- Whether its last line starts with a blank. -/
  startsBlank : Bool := false
  /-- The empty lines behind it. -/
  empty : EmptyLines

/-- Reads the lines of a block scalar. -/
def blockLines (literal : Bool) (indent : Nat) (start : Mark) :
    Nat → Cursor → BlockScalar → Except Fault (BlockScalar × Cursor)
  | 0, c, s => .ok (s, c)
  | fuel + 1, c, s =>
    if c.mark.column != indent || c.rest = [] then .ok (s, c)
    else do
      let blank := c.sees isBlank
      let joins := !literal && s.lastBreak.head? == some '\n' && !s.startsBlank && !blank
      let between :=
        if joins then if s.empty.breaks = [] then [' '] else s.empty.breaks
        else s.lastBreak ++ s.empty.breaks
      let (line, c) := c.span (!isBreak ·)
      let next := c.skipBreak
      let lastBreak := breaksOf (c.rest.take (c.size - next.size))
      let (empty, next) ← emptyLines (some indent) start (next.size + 1) next { stop := next.mark }
      blockLines literal indent start fuel next
        { text := s.text ++ between ++ line, lastBreak, startsBlank := blank, empty }

/-- Reads a block scalar inside a block that is indented by `outer`; the cursor stands at the sign.
Gives its text and where its last line ends. -/
def blockScalar (literal : Bool) (outer : Int) (c : Cursor) :
    Except Fault (List Char × Mark × Cursor) := do
  let start := c.mark
  let (header, c) ← blockHeader start (c.drop 1)
  let c := (c.skip isBlank).skipComment
  if !c.atLineEnd then c.fail .blockScalar start .missingLineEnd
  else
    let c := c.skipBreak
    let indent := header.indent.map fun (n : Nat) => if 0 ≤ outer then (outer + n).toNat else n
    let (empty, c) ← emptyLines indent start (c.size + 1) c { stop := c.mark }
    let indent := indent.getD (max (max empty.widest (outer + 1).toNat) 1)
    let (s, c) ← blockLines literal indent start (c.size + 1) c { empty }
    let tail := match header.chomping with
      | .strip => []
      | .clip => s.lastBreak
      | .keep => s.lastBreak ++ s.empty.breaks
    return (s.text ++ tail, s.empty.stop, c)

end PlotDeck.Yaml

import PlotDeck.Toml.Value

/-!
# TOML texts

A text is a sequence of lines: comments, keys with values, and headers. A header **opens** a table,
and the keys below it go there. The tree grows line by line.
-/

namespace PlotDeck.Toml

open PlotDeck.Toml.Parser

/-- The tree of the lines read so far. -/
structure Draft where
  /-- The tree. -/
  root : Node
  /-- The path to the open table. -/
  opened : List Key := []

namespace Draft

/-- Extends the place of a table up to the end of a value. -/
def extend (value : Node) : Node → Node
  | .table origin entries (some region) =>
    .table origin entries (some ⟨region.start, (value.region?.getD region).stop⟩)
  | node => node

/-- Adds a key and its value to the open table. -/
def putKey (d : Draft) (steps : List Key) (value : Node) : Except Cause Draft := do
  match steps.getLast? with
  | none => return d
  | some last =>
    let holder := d.opened.map (·.name)
    let change (node : Node) :=
      (extend value node).putAt .key steps.dropLast last value (some holder)
    return { d with root := ← Node.update .header change [] d.opened d.root }

/-- A key that has a header already. -/
def repeated (steps : List Key) (last : Key) : Cause :=
  .duplicateKey (writtenKey last.name) (some (steps.dropLast.map (·.name)))

/-- Opens the table of a header. A table that was only implied so far is written out now, and moves
behind its neighbours. -/
def openTable (d : Draft) (steps : List Key) (region : Region) : Except Cause Draft := do
  match steps.getLast? with
  | none => return d
  | some last =>
    let change : Node → Except Cause Node
      | .table origin entries place =>
        match Node.lookup last.name entries with
        | none => .ok (.table origin (entries ++ [(last, .table .header [] (some region))]) place)
        | some (.table .implied inner _) =>
          let others := entries.filter (·.1.name != last.name)
          .ok (.table origin (others ++ [(last, .table .header inner (some region))]) place)
        | some _ => .error (repeated steps last)
      | node => .ok node
    return ⟨← Node.update .header change [] steps.dropLast d.root, steps⟩

/-- Opens one more of the tables that share a header. -/
def openItem (d : Draft) (steps : List Key) (region : Region) : Except Cause Draft := do
  match steps.getLast? with
  | none => return d
  | some last =>
    let item : Node := .table .header [] (some region)
    let change : Node → Except Cause Node
      | .table origin entries place =>
        match Node.lookup last.name entries with
        | none => .ok (.table origin (entries ++ [(last, .tables [item])]) place)
        | some (.tables items) =>
          let all := .tables (items ++ [item])
          .ok (.table origin (Node.replace last.name all entries) place)
        | some _ => .error (repeated steps last)
      | node => .ok node
    return ⟨← Node.update .header change [] steps.dropLast d.root, steps⟩

end Draft

/-! ### Lines -/

/-- What has to follow the last part of a line. -/
def lineRestExpected : Parser Unit := (lineRest.expect "newline").expectSign "#"

/-- A line with a key and a value. -/
def keyLine (d : Draft) : Parser Draft :=
  Parser.check
    (p := do
      let steps ← key
      commit do
        equals
        let _ ← blanks
        let node ← value (tooMany - 1)
        lineRestExpected
        return (steps, node))
    fun (steps, node) => d.putKey steps node

/-- A header between brackets. -/
def header (left right : List Char) (close : String) : Parser (List Key × Region) := do
  let head ← located do
    let _ ← word left
    let steps ← key.commit
    let _ ← expectSign close <| expectSign "." (word right).commit
    return steps
  lineRestExpected.commit
  return head

/-- A line with a header. -/
def headerLine (d : Draft) : Parser Draft :=
  label "table header" do
    match ← look (takeExactly 2 fun _ => true) with
    | ['[', '['] =>
      Parser.check (p := header ['[', '['] [']', ']'] "]]") fun (steps, region) =>
        d.openItem steps region
    | _ => Parser.check (p := header ['['] [']'] "]") fun (steps, region) =>
      d.openTable steps region

/-- All lines from here on. -/
def lines : Nat → Draft → Parser Draft
  | 0, d => return d
  | fuel + 1, d => fun t =>
    let line : Parser Draft := do
      let c ← look any
      let d ←
        if c = '#' then commit do
          comment
          lineEnd
          pure d
        else if c = '[' then (headerLine d).commit
        else if c = '\n' ∨ c = '\r' then do
          newline
          pure d
        else (keyLine d).commit
      let _ ← blanks
      return d
    match line t with
    | .ok d r => lines fuel d r
    | .declined _ => .ok d t
    | .refused f => .refused f

/-- The tree of a text, with a mark of byte order in front perhaps. -/
def parse (t : List Char) : Except Fault Node :=
  let document : Parser Draft := do
    let _ ← (char '\uFEFF').optional
    let _ ← blanks
    let d ← lines (t.length + 1) ⟨.table .header [] (some ⟨t, t⟩), []⟩
    atEnd
    return d
  match document t with
  | .ok d _ => .ok d.root
  | .declined f => .error f
  | .refused f => .error f

end PlotDeck.Toml

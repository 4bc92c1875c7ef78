import PlotDeck.Yaml.BlockScalar
import PlotDeck.Yaml.PlainScalar
import PlotDeck.Yaml.QuotedScalar
import PlotDeck.Yaml.Tag

/-!
# Cutting a YAML text into tokens

A key need not be marked as one: whether a node is a key shows only at the colon behind it. So each
node that may turn out to be a key is remembered as a **candidate**, and tokens from it on are held
back until that is decided. A candidate stands on one line and is not too long; one at the margin of
a block has to be a key.

A text is checked for characters that may not stand in it block by block, as the scanner comes to
them. So a fault before the block of such a character is found first, and one inside the block is
not.
-/

namespace PlotDeck.Yaml

/-- A node that may turn out to be a key. -/
structure Candidate where
  /-- Whether it has to be one. -/
  required : Bool
  /-- The number of its first token. -/
  number : Nat
  /-- Where it starts. -/
  mark : Mark
deriving DecidableEq, Repr

/-- How many bytes of a text are checked together. -/
def blockSize : Nat := 16384

/-- A character that may not stand in a text. -/
structure Forbidden where
  /-- The bytes before the block that it is part of. -/
  block : Nat
  /-- The bytes before it. -/
  offset : Nat
deriving DecidableEq, Repr

/-- The first character that may not stand in a text, given where the block and the text start. No
character is split between blocks. -/
def findForbidden (block offset : Nat) : List Char → Option Forbidden
  | [] => none
  | c :: r =>
    let block := if block + blockSize < offset + c.utf8Size then offset else block
    if isAllowed c then findForbidden block (offset + c.utf8Size) r else some ⟨block, offset⟩

/-- A text that is being cut into tokens. -/
structure Scanner where
  /-- What has not been read yet. -/
  cursor : Cursor
  /-- The margin of the innermost block. -/
  indent : Int := -1
  /-- The margins of the blocks around it. -/
  indents : List Int := []
  /-- The candidate at this level of brackets. -/
  candidate : Option Candidate := none
  /-- The candidates of the levels around it; as many as brackets are open. -/
  outer : List (Option Candidate) := []
  /-- Whether a candidate may start here. -/
  mayStart : Bool := true
  /-- The tokens held back. -/
  held : List Token := []
  /-- How many tokens have been let go. -/
  released : Nat := 0
  /-- Whether the end of the text has been reached. -/
  ended : Bool := false
  /-- The first character that may not stand in the text. -/
  forbidden : Option Forbidden := none

namespace Scanner

/-- Whether brackets are open. -/
def inFlow (s : Scanner) : Bool := !s.outer.isEmpty

/-- Where the scanner stands. -/
def mark (s : Scanner) : Mark := s.cursor.mark

/-- Stops with a problem here. -/
def fail {α : Type} (s : Scanner) (problem : Problem) : Except Fault α :=
  .error (.found problem s.mark none)

/-- Stops because a candidate that has to be a key is none. -/
def failCandidate {α : Type} (s : Scanner) (k : Candidate) : Except Fault α :=
  s.cursor.fail .simpleKey k.mark .missingColon

/-- Adds a token. -/
def push (s : Scanner) (t : Token) : Scanner := { s with held := s.held ++ [t] }

/-- Adds a token before the one of a given number. -/
def insert (s : Scanner) (number : Nat) (t : Token) : Scanner :=
  let place := number - s.released
  { s with held := s.held.take place ++ t :: s.held.drop place }

/-- Reads a sign of so many characters as a token. -/
def sign (s : Scanner) (count : Nat) (kind : TokenKind) : Scanner :=
  let next := s.cursor.drop count
  { s with cursor := next }.push ⟨kind, s.mark, next.mark⟩

/-! ### Candidates -/

/-- Whether a candidate cannot be a key any more. -/
def isStale (s : Scanner) (k : Candidate) : Bool :=
  k.mark.line < s.mark.line || k.mark.index + 1024 < s.mark.index

/-- A candidate without those that are stale. -/
def freshen (s : Scanner) : Option Candidate → Except Fault (Option Candidate)
  | none => .ok none
  | some k =>
    if !s.isStale k then .ok (some k)
    else if k.required then s.failCandidate k
    else .ok none

/-- Gives up candidates that are stale. -/
def dropStale (s : Scanner) : Except Fault Scanner := do
  let outer ← (s.outer.reverse.mapM s.freshen)
  let candidate ← s.freshen s.candidate
  return { s with candidate, outer := outer.reverse }

/-- Gives up the candidate at this level. -/
def dropCandidate (s : Scanner) : Except Fault Scanner :=
  match s.candidate with
  | some k => if k.required then s.failCandidate k else .ok { s with candidate := none }
  | none => .ok s

/-- Remembers the node that starts here as a candidate, if one may start. -/
def saveCandidate (s : Scanner) : Except Fault Scanner :=
  if s.mayStart then do
    let required := !s.inFlow && s.indent == s.mark.column
    let number := s.released + s.held.length
    let s ← s.dropCandidate
    return { s with candidate := some ⟨required, number, s.mark⟩ }
  else .ok s

/-! ### Blocks -/

/-- Starts a block at a column, unless one is there already; its token comes before the one of a
given number, if that is given. -/
def startBlock (s : Scanner) (column : Nat) (number : Option Nat) (kind : TokenKind) (m : Mark) :
    Scanner :=
  if s.inFlow || (column : Int) ≤ s.indent then s
  else
    let s := { s with indents := s.indent :: s.indents, indent := column }
    match number with
    | some number => s.insert number ⟨kind, m, m⟩
    | none => s.push ⟨kind, m, m⟩

/-- The blocks that are left at a column: the margins, and how many blocks end. -/
def leaveBlocks (column : Int) : Int → List Int → Int × List Int × Nat
  | indent, [] => (indent, [], 0)
  | indent, next :: rest =>
    if column < indent then
      let (indent, rest, n) := leaveBlocks column next rest
      (indent, rest, n + 1)
    else (indent, next :: rest, 0)

/-- Ends the blocks that are indented further than a column. -/
def endBlocks (s : Scanner) (column : Int) : Scanner :=
  if s.inFlow then s
  else
    let (indent, indents, n) := leaveBlocks column s.indent s.indents
    { s with
      indent, indents
      held := s.held ++ List.replicate n ⟨.blockEnd, s.mark, s.mark⟩ }

/-- Ends all blocks and candidates, before something that stands outside of them. -/
def endAll (s : Scanner) : Except Fault Scanner := do
  let s ← (s.endBlocks (-1)).dropCandidate
  return { s with mayStart := false }

/-! ### Tokens -/

/-- The end of the text. It stands on a line of its own. -/
def streamEnd (s : Scanner) : Except Fault Scanner := do
  let m := s.mark
  let m := if m.column = 0 then m else ⟨m.index, m.line + 1, 0⟩
  let s ← { s with cursor := ⟨s.cursor.rest, m⟩ }.endAll
  return { s with ended := true }.push ⟨.streamEnd, m, m⟩

/-- An opening bracket or brace, which may start a key. -/
def flowStart (s : Scanner) (kind : TokenKind) : Except Fault Scanner := do
  let s ← s.saveCandidate
  return { s with outer := s.candidate :: s.outer, candidate := none, mayStart := true }.sign 1 kind

/-- A closing bracket or brace. -/
def flowEnd (s : Scanner) (kind : TokenKind) : Except Fault Scanner := do
  let s ← s.dropCandidate
  let s := match s.outer with
    | [] => s
    | k :: outer => { s with candidate := k, outer }
  return { s with mayStart := false }.sign 1 kind

/-- A comma between entries. -/
def flowEntry (s : Scanner) : Except Fault Scanner := do
  let s ← s.dropCandidate
  return { s with mayStart := true }.sign 1 .flowEntry

/-- The dash of an entry. -/
def blockEntry (s : Scanner) : Except Fault Scanner := do
  if !s.inFlow && !s.mayStart then s.fail .sequenceNotAllowed
  else
    let s ← (s.startBlock s.mark.column none .blockSequenceStart s.mark).dropCandidate
    return { s with mayStart := true }.sign 1 .blockEntry

/-- The question mark of a key. -/
def keySign (s : Scanner) : Except Fault Scanner := do
  if !s.inFlow && !s.mayStart then s.fail .keyNotAllowed
  else
    let s ← (s.startBlock s.mark.column none .blockMappingStart s.mark).dropCandidate
    return { s with mayStart := !s.inFlow }.sign 1 .key

/-- The colon of a value. It makes the candidate before it a key. -/
def valueSign (s : Scanner) : Except Fault Scanner :=
  match s.candidate with
  | some k =>
    let s := s.insert k.number ⟨.key, k.mark, k.mark⟩
    let s := s.startBlock k.mark.column (some k.number) .blockMappingStart k.mark
    .ok ({ s with candidate := none, mayStart := false }.sign 1 .value)
  | none =>
    if !s.inFlow && !s.mayStart then s.fail .valueNotAllowed
    else
      let s := s.startBlock s.mark.column none .blockMappingStart s.mark
      .ok ({ s with mayStart := !s.inFlow }.sign 1 .value)

/-- A token that a part of the text is read as; it may be a candidate or the start of one. -/
def part (s : Scanner) (read : Cursor → Except Fault (TokenKind × Cursor)) :
    Except Fault Scanner := do
  let s ← s.saveCandidate
  let (kind, next) ← read s.cursor
  return { s with mayStart := false, cursor := next }.push ⟨kind, s.mark, next.mark⟩

/-- A plain scalar. Behind the end of its line a key may start. -/
def plain (s : Scanner) : Except Fault Scanner := do
  let s ← s.saveCandidate
  let (p, next) ← plainScalar s.inFlow (s.indent + 1) s.cursor
  return { s with mayStart := p.endsLine, cursor := next }.push
    ⟨.scalar p.text .plain, s.mark, p.stop⟩

/-- A block scalar. -/
def block (s : Scanner) (literal : Bool) : Except Fault Scanner := do
  let s ← s.dropCandidate
  let (text, stop, next) ← blockScalar literal s.indent s.cursor
  return { s with mayStart := true, cursor := next }.push
    ⟨.scalar text (if literal then .literal else .folded), s.mark, stop⟩

/-- A line with a directive. -/
def directiveLine (s : Scanner) : Except Fault Scanner := do
  let s ← s.endAll
  let (kind, stop, next) ← directive s.cursor
  return { s with cursor := next }.push ⟨kind, s.mark, stop⟩

/-- The mark of a document. -/
def document (s : Scanner) (kind : TokenKind) : Except Fault Scanner := do
  let s ← s.endAll
  return s.sign 3 kind

/-- Whether a plain scalar starts here. -/
def startsPlain (s : Scanner) (x : Char) : Bool :=
  let c := s.cursor
  !(isGap x || isFlowSign x || x ∈ ['-', '?', ':', '#', '&', '*', '!', '|', '>', '\'', '"', '%',
    '@', '\x60'])
    || (x == '-' && !((c.ahead 1).map isBlank).getD false)
    || (!s.inFlow && (x == '?' || x == ':') && !c.gapAt 1)

/-- Reads the next token, at the start of which the scanner stands. -/
def token (s : Scanner) : Except Fault Scanner :=
  let c := s.cursor
  match c.rest with
  | [] => s.streamEnd
  | x :: _ =>
    if c.mark.column == 0 && x == '%' then s.directiveLine
    else if c.atDocument '-' then s.document .documentStart
    else if c.atDocument '.' then s.document .documentEnd
    else if x == '[' then s.flowStart .flowSequenceStart
    else if x == '\x7b' then s.flowStart .flowMappingStart
    else if x == ']' then s.flowEnd .flowSequenceEnd
    else if x == '\x7d' then s.flowEnd .flowMappingEnd
    else if x == ',' then s.flowEntry
    else if x == '-' && c.gapAt 1 then s.blockEntry
    else if x == '?' && (s.inFlow || c.gapAt 1) then s.keySign
    else if x == ':' && (s.inFlow || c.gapAt 1) then s.valueSign
    else if x == '*' then s.part fun c => do
      let (name, c) ← anchorName .reference c
      return (.reference name, c)
    else if x == '&' then s.part fun c => do
      let (name, c) ← anchorName .anchor c
      return (.anchor name, c)
    else if x == '!' then s.part fun c => do
      let (handle, text, c) ← tag s.inFlow c
      return (.tag handle text, c)
    else if x == '|' && !s.inFlow then s.block true
    else if x == '>' && !s.inFlow then s.block false
    else if x == '\'' || x == '"' then s.part fun c => do
      let (text, c) ← quotedScalar (x == '\'') c
      return (.scalar text .quoted, c)
    else if s.startsPlain x then s.plain
    else c.fail .nextToken s.mark .noToken

/-- Passes over space and comments up to the next token. A line may start with a byte order mark,
which counts as a character of it. At the start of a line of a block, tabs are no space. -/
def skipSpace : Nat → Scanner → Scanner
  | 0, s => s
  | fuel + 1, s =>
    let c := if s.mark.column == 0 && s.cursor.starts '\uFEFF' then s.cursor.drop 1 else s.cursor
    let tabs := s.inFlow || !s.mayStart
    let c := (c.skip fun x => x == ' ' || (tabs && x == '\t')).skipComment
    if c.sees isBreak then
      skipSpace fuel { s with cursor := c.skipBreak, mayStart := s.mayStart || !s.inFlow }
    else { s with cursor := c }

/-- Reads on to behind the next token. -/
def advance (s : Scanner) : Except Fault Scanner := do
  let s ← (skipSpace (s.cursor.size + 1) s).dropStale
  (s.endBlocks s.mark.column).token

/-- Reads on to behind the next token, unless that takes a look at the block of a forbidden
character: the token or the fault lies there, or the token starts within three characters of it. -/
def checkedAdvance (s : Scanner) : Except Fault Scanner :=
  match s.forbidden with
  | none => s.advance
  | some x =>
    let start := (skipSpace (s.cursor.size + 1) s).cursor
    let stop := match s.advance with
      | .ok s => s.mark.index
      | .error f => f.mark.index
    if x.block ≤ (start.drop 3).mark.index ∨ x.block ≤ stop then .error (.control x.offset)
    else s.advance

/-- Whether the first token held back may be the start of a key. -/
def isUndecided (s : Scanner) : Bool :=
  (s.candidate :: s.outer).any fun k => (k.map (·.number == s.released)).getD false

end Scanner

/-- The tokens of a text, up to a fault if there is one. -/
structure TokenStream where
  /-- The tokens. -/
  tokens : List Token
  /-- The fault behind the last of them. -/
  fault : Option Fault

/-- Lets tokens go one by one, reading on where none is held back or the first is undecided. -/
def TokenStream.build : Nat → Scanner → TokenStream
  | 0, _ => ⟨[], none⟩
  | fuel + 1, s =>
    let advanced (s : Scanner) : TokenStream :=
      match s.checkedAdvance with
      | .ok s => build fuel s
      | .error f => ⟨[], some f⟩
    if s.held = [] then if s.ended then ⟨[], none⟩ else advanced s
    else
      match s.dropStale with
      | .error f => ⟨[], some f⟩
      | .ok s =>
        if s.isUndecided then advanced s
        else
          match s.held with
          | [] => ⟨[], none⟩
          | t :: held =>
            let rest := build fuel { s with held, released := s.released + 1 }
            ⟨t :: rest.tokens, rest.fault⟩

/-- The tokens of a text. Each character starts or ends at most a few tokens. -/
def TokenStream.ofText (text : List Char) : TokenStream :=
  build (8 * text.length + 8) { cursor := ⟨text, {}⟩, forbidden := findForbidden 0 0 text }

end PlotDeck.Yaml

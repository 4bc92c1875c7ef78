import PlotDeck.Yaml.Scalar
import PlotDeck.Yaml.TokenStream

/-!
# YAML trees

The first document of a YAML text as a tree. The tree of a faulty text goes as far as the text can
be followed, and holds the fault where it stops, so that a reader that walks through the tree meets
faults in the order of the text. A reference stays a leaf with the number of its anchor; `anchored`
lists what the numbers stand for.

A reference is looked up by name when it is met, but what it leads to is decided by number, and
numbers count the distinct names so far. So a name that is given again shares its new number with
the next new name.
-/

namespace PlotDeck.Yaml

/-- What stands before a node. -/
structure Properties where
  /-- The number of its anchor. -/
  anchor : Option Nat := none
  /-- Its tag. -/
  tag : Option (List Char) := none
  /-- Where the node starts, with what stands before it. -/
  mark : Mark

/-- A node of the tree. -/
inductive Node where
  /-- No node that could be followed. -/
  | broken (fault : Fault)
  /-- The text has no document at all. -/
  | absent (mark : Mark)
  /-- A scalar. -/
  | scalar (value : Scalar) (props : Properties)
  /-- A reference to an anchor. -/
  | reference (anchor : Nat) (mark : Mark)
  /-- A sequence, and how it ends. -/
  | sequence (items : List Node) (props : Properties) (ending : Except Fault Unit)
  /-- A mapping, and how it ends. -/
  | mapping (entries : List (Node × Node)) (props : Properties) (ending : Except Fault Unit)

namespace Node

/-- How a node ends. -/
def ending : Node → Except Fault Unit
  | broken fault => .error fault
  | absent _ | scalar _ _ | reference _ _ => .ok ()
  | sequence _ _ ending => ending
  | mapping _ _ ending => ending

/-- The anchor of a node with the node itself. -/
def ownAnchor (node : Node) (props : Properties) : List (Nat × Node) :=
  (props.anchor.map fun n => (n, node)).toList

mutual
/-- The nodes with anchors in a tree, by number. -/
def anchored : Node → List (Nat × Node)
  | broken _ | absent _ | reference _ _ => []
  | scalar value props => ownAnchor (.scalar value props) props
  | sequence items props ending =>
    ownAnchor (.sequence items props ending) props ++ anchoredItems items
  | mapping entries props ending =>
    ownAnchor (.mapping entries props ending) props ++ anchoredEntries entries

/-- The nodes with anchors in the items of a sequence. -/
def anchoredItems : List Node → List (Nat × Node)
  | [] => []
  | node :: rest => node.anchored ++ anchoredItems rest

/-- The nodes with anchors in the entries of a mapping. -/
def anchoredEntries : List (Node × Node) → List (Nat × Node)
  | [] => []
  | (name, value) :: rest => name.anchored ++ value.anchored ++ anchoredEntries rest
end

mutual
/-- The number of starts and ends of nodes in a tree. -/
def eventCount : Node → Nat
  | broken _ => 0
  | absent _ | scalar _ _ | reference _ _ => 1
  | sequence items _ ending => 1 + countItems items + (if ending.isOk then 1 else 0)
  | mapping entries _ ending => 1 + countEntries entries + (if ending.isOk then 1 else 0)

/-- The number of starts and ends in the items of a sequence. -/
def countItems : List Node → Nat
  | [] => 0
  | node :: rest => node.eventCount + countItems rest

/-- The number of starts and ends in the entries of a mapping. -/
def countEntries : List (Node × Node) → Nat
  | [] => 0
  | (name, value) :: rest => name.eventCount + value.eventCount + countEntries rest
end

end Node

/-! ### Tokens -/

/-- A place between tokens, and what is known there. -/
structure Position where
  /-- The tokens ahead. -/
  tokens : List Token
  /-- The fault behind them. -/
  fault : Fault
  /-- The handles for tags and what they stand for. -/
  handles : List (List Char × List Char) := []
  /-- The names of anchors with their numbers, the latest first. -/
  anchors : List (List Char × Nat) := []

namespace Position

/-- The next token. -/
def peek (p : Position) : Except Fault Token :=
  match p.tokens with
  | t :: _ => .ok t
  | [] => .error p.fault

/-- Passes over the next token. -/
def skip (p : Position) : Position := { p with tokens := p.tokens.drop 1 }

/-- The number of an anchor. -/
def anchor? (p : Position) (name : List Char) : Option Nat :=
  (p.anchors.find? (·.1 == name)).map (·.2)

/-- Gives an anchor its number: the number of distinct names so far. -/
def name (p : Position) (name : List Char) : Nat × Position :=
  let n := p.anchors.length
  (n, { p with anchors := (name, n) :: p.anchors.filter (·.1 != name) })

end Position

/-- Stops with a problem at a token. -/
def Token.fail {α : Type} (t : Token) (problem : Problem) (during : Option (Activity × Mark)) :
    Except Fault α :=
  .error (.found problem t.start during)

/-! ### Nodes -/

/-- An empty scalar at a place where a node is left out. -/
def emptyScalar (m : Mark) : Node := .scalar ⟨[], .plain, none⟩ { mark := m }

/-- What stands before a node as it is written. -/
structure WrittenProperties where
  /-- The name of its anchor. -/
  anchor : Option (List Char) := none
  /-- The handle and text of its tag, and where that stands. -/
  tag : Option (List Char × List Char × Mark) := none
  /-- Where the node starts. -/
  mark : Mark

/-- Reads an anchor and a tag, in either order. -/
def readProperties (p : Position) (t : Token) :
    Except Fault (WrittenProperties × Token × Position) := do
  match t.kind with
  | .anchor name =>
    let p := p.skip
    let u ← p.peek
    match u.kind with
    | .tag handle text =>
      return ({ anchor := name, tag := (handle, text, u.start), mark := t.start },
        ← p.skip.peek, p.skip)
    | _ => return ({ anchor := name, mark := t.start }, u, p)
  | .tag handle text =>
    let p := p.skip
    let u ← p.peek
    match u.kind with
    | .anchor name =>
      return ({ anchor := name, tag := (handle, text, t.start), mark := t.start },
        ← p.skip.peek, p.skip)
    | _ => return ({ tag := (handle, text, t.start), mark := t.start }, u, p)
  | _ => return ({ mark := t.start }, t, p)

/-- The whole tag that a handle and a text stand for. -/
def resolveTag (p : Position) (w : WrittenProperties) : Except Fault (Option (List Char)) :=
  match w.tag with
  | none => .ok none
  | some ([], text, _) => .ok (some text)
  | some (handle, text, m) =>
    match p.handles.find? (·.1 == handle) with
    | some (_, start) => .ok (some (start ++ text))
    | none => .error (.found .unknownHandle m (some (.node, w.mark)))

/-- Where the parsing of a part has come to. -/
abbrev After := Except Fault Position

/-- A part that could not be followed. -/
def stuck (f : Fault) : Node × After := (.broken f, .error f)

/-- How a part ends. -/
def After.ending (a : After) : Except Fault Unit := a.map fun _ => ()

/-- Adds a node to those that come behind it, unless it could not be followed. -/
def consItem (node : Node) (rest : List Node) : List Node :=
  match node with
  | .broken _ => []
  | _ => node :: rest

/-- Makes do without a node: something has to stand before it at least. -/
def parseNothing (inBlock : Bool) (p : Position) (t : Token) (props : Properties) : Node × After :=
  if props.anchor.isSome || props.tag.isSome then (.scalar ⟨[], .plain, props.tag⟩ props, .ok p)
  else
    let activity : Activity := if inBlock then .blockNode else .flowNode
    stuck (.found .missingContent t.start (some (activity, props.mark)))

/-- Passes over the comma before an item that is not the first, unless the end comes. -/
def skipComma (first : Bool) (ending : TokenKind) (during : Activity × Mark) (missing : Problem)
    (p : Position) : Except Fault (Token × Position) := do
  let t ← p.peek
  if first || t.kind == ending then return (t, p)
  else if t.kind == .flowEntry then return (← p.skip.peek, p.skip)
  else t.fail missing (some during)

mutual
/-- Parses a node. In a block it may be a block; behind a key it may be a sequence without further
indentation. -/
def parseNode (inBlock mayHang : Bool) : Nat → Position → Node × After
  | 0, p => stuck p.fault
  | fuel + 1, p =>
    match p.peek with
    | .error f => stuck f
    | .ok t =>
      match t.kind with
      | .reference name =>
        match p.anchor? name with
        | some n => (.reference n t.start, .ok p.skip)
        | none => stuck (.unknownAnchor t.start)
      | _ =>
        match readProperties p t with
        | .error f => stuck f
        | .ok (w, t, p) =>
          match resolveTag p w with
          | .error f => stuck f
          | .ok tag => parseContent inBlock mayHang fuel p t w tag

/-- Parses a node behind what stands before it. -/
def parseContent (inBlock mayHang : Bool) :
    Nat → Position → Token → WrittenProperties → Option (List Char) → Node × After
  | 0, p, _, _, _ => stuck p.fault
  | fuel + 1, p, t, w, tag =>
    let (anchor, q) := match w.anchor with
      | some name => let (n, q) := p.name name; (some n, q)
      | none => (none, p)
    let props : Properties := ⟨anchor, tag, w.mark⟩
    let sequence (r : List Node × After) : Node × After :=
      (.sequence r.1 props r.2.ending, r.2)
    let mapping (r : List (Node × Node) × After) : Node × After :=
      (.mapping r.1 props r.2.ending, r.2)
    match t.kind with
    | .blockEntry =>
      if mayHang then sequence (parseHanging fuel q)
      else parseNothing inBlock q t props
    | .scalar text style => (.scalar ⟨text, style, tag⟩ props, .ok q.skip)
    | .flowSequenceStart => sequence (parseFlowSequence t.start true fuel q.skip)
    | .flowMappingStart => mapping (parseFlowMapping t.start true fuel q.skip)
    | .blockSequenceStart =>
      if inBlock then sequence (parseBlockSequence t.start fuel q.skip)
      else parseNothing inBlock q t props
    | .blockMappingStart =>
      if inBlock then mapping (parseBlockMapping t.start fuel q.skip)
      else parseNothing inBlock q t props
    | _ => parseNothing inBlock q t props

/-- Parses a node unless one of some tokens comes, in which case it is left out. -/
def parseNodeUnless (inBlock mayHang : Bool) (left : TokenKind → Bool) (place : Option Mark) :
    Nat → Position → Node × After
  | 0, p => stuck p.fault
  | fuel + 1, p =>
    match p.peek with
    | .error f => stuck f
    | .ok t =>
      if left t.kind then (emptyScalar (place.getD t.start), .ok p)
      else parseNode inBlock mayHang fuel p

/-- Parses the entries of an indented sequence. -/
def parseBlockSequence (start : Mark) : Nat → Position → List Node × After
  | 0, p => ([], .error p.fault)
  | fuel + 1, p =>
    match p.peek with
    | .error f => ([], .error f)
    | .ok t =>
      match t.kind with
      | .blockEntry =>
        let left (k : TokenKind) : Bool := k == .blockEntry || k == .blockEnd
        match parseNodeUnless true false left (some t.stop) fuel p.skip with
        | (node, .error f) => (consItem node [], .error f)
        | (node, .ok p) =>
          let (rest, after) := parseBlockSequence start fuel p
          (node :: rest, after)
      | .blockEnd => ([], .ok p.skip)
      | _ => ([], t.fail .missingDash (some (.blockSequence, start)))

/-- Parses the entries of a sequence without further indentation. -/
def parseHanging : Nat → Position → List Node × After
  | 0, p => ([], .error p.fault)
  | fuel + 1, p =>
    match p.peek with
    | .error f => ([], .error f)
    | .ok t =>
      match t.kind with
      | .blockEntry =>
        let left (k : TokenKind) : Bool := k ∈ [.blockEntry, .key, .value, .blockEnd]
        match parseNodeUnless true false left (some t.stop) fuel p.skip with
        | (node, .error f) => (consItem node [], .error f)
        | (node, .ok p) =>
          let (rest, after) := parseHanging fuel p
          (node :: rest, after)
      | _ => ([], .ok p)

/-- Parses the entries of an indented mapping. -/
def parseBlockMapping (start : Mark) : Nat → Position → List (Node × Node) × After
  | 0, p => ([], .error p.fault)
  | fuel + 1, p =>
    let left (k : TokenKind) : Bool := k ∈ [.key, .value, .blockEnd]
    match p.peek with
    | .error f => ([], .error f)
    | .ok t =>
      match t.kind with
      | .key =>
        match parseNodeUnless true true left (some t.stop) fuel p.skip with
        | (name, .error f) => (match consItem name [] with
          | [] => []
          | _ => [(name, .broken f)], .error f)
        | (name, .ok p) => parseBlockValue start name fuel p
      | .blockEnd => ([], .ok p.skip)
      | _ => ([], t.fail .missingKey (some (.blockMapping, start)))

/-- Parses the value of a key in an indented mapping, and the entries behind it. -/
def parseBlockValue (start : Mark) (name : Node) : Nat → Position → List (Node × Node) × After
  | 0, p => ([], .error p.fault)
  | fuel + 1, p =>
    let left (k : TokenKind) : Bool := k ∈ [.key, .value, .blockEnd]
    match p.peek with
    | .error f => ([(name, .broken f)], .error f)
    | .ok t =>
      let (value, after) :=
        if t.kind == .value then parseNodeUnless true true left (some t.stop) fuel p.skip
        else (emptyScalar t.start, .ok p)
      match after with
      | .error f => ([(name, value)], .error f)
      | .ok p =>
        let (rest, after) := parseBlockMapping start fuel p
        ((name, value) :: rest, after)

/-- Parses the items of a sequence in brackets. -/
def parseFlowSequence (start : Mark) (first : Bool) : Nat → Position → List Node × After
  | 0, p => ([], .error p.fault)
  | fuel + 1, p =>
    match skipComma first .flowSequenceEnd (.flowSequence, start) .missingSequenceEnd p with
    | .error f => ([], .error f)
    | .ok (t, p) =>
      if t.kind == .flowSequenceEnd then ([], .ok p.skip)
      else
        let (node, after) :=
          if t.kind == .key then parsePair t fuel p.skip else parseNode false false fuel p
        match after with
        | .error f => (consItem node [], .error f)
        | .ok p =>
          let (rest, after) := parseFlowSequence start false fuel p
          (node :: rest, after)

/-- Parses a mapping of one key in brackets. Where the key is left out, so is the token behind
it. -/
def parsePair (t : Token) : Nat → Position → Node × After
  | 0, p => stuck p.fault
  | fuel + 1, p =>
    let props : Properties := { mark := t.start }
    let ends (k : TokenKind) : Bool := k == .flowEntry || k == .flowSequenceEnd
    let (name, after) := match p.peek with
      | .error f => stuck f
      | .ok t =>
        if t.kind == TokenKind.value || ends t.kind then (emptyScalar t.stop, .ok p.skip)
        else parseNode false false fuel p
    match after with
    | .error f =>
      let entries := match consItem name [] with
        | [] => []
        | _ => [(name, Node.broken f)]
      (.mapping entries props (.error f), .error f)
    | .ok p =>
      let (value, after) := match p.peek with
        | .error f => stuck f
        | .ok t =>
          if t.kind == TokenKind.value then parseNodeUnless false false ends none fuel p.skip
          else (emptyScalar t.start, .ok p)
      let after := after.bind fun p => p.peek.map fun _ => p
      (.mapping [(name, value)] props (After.ending after), after)

/-- Parses the entries of a mapping in braces. -/
def parseFlowMapping (start : Mark) (first : Bool) : Nat → Position → List (Node × Node) × After
  | 0, p => ([], .error p.fault)
  | fuel + 1, p =>
    let ends (k : TokenKind) : Bool := k == .flowEntry || k == .flowMappingEnd
    match skipComma first .flowMappingEnd (.flowMapping, start) .missingMappingEnd p with
    | .error f => ([], .error f)
    | .ok (t, p) =>
      if t.kind == .flowMappingEnd then ([], .ok p.skip)
      else
        let (name, after) :=
          if t.kind == .key then
            parseNodeUnless false false (fun k => k == .value || ends k) none fuel p.skip
          else parseNode false false fuel p
        match after with
        | .error f => (match consItem name [] with
          | [] => []
          | _ => [(name, .broken f)], .error f)
        | .ok p =>
          let (value, after) := match p.peek with
            | .error f => stuck f
            | .ok u =>
              if t.kind == TokenKind.key && u.kind == TokenKind.value then
                parseNodeUnless false false ends none fuel p.skip
              else (emptyScalar u.start, .ok p)
          match after with
          | .error f => ([(name, value)], .error f)
          | .ok p =>
            let (rest, after) := parseFlowMapping start false fuel p
            ((name, value) :: rest, after)
end

/-! ### Documents -/

/-- What a text holds. -/
structure Document where
  /-- The tree of its first document. -/
  root : Node
  /-- Whether the text can be followed to the end of that document. -/
  ending : Except Fault Unit
  /-- Whether anything comes behind it. -/
  more : Bool

/-- The handles that need not be declared. -/
def commonHandles : List (List Char × List Char) := [(['!'], ['!']), (['!', '!'], coreTag "")]

/-- Reads the directives before a document. -/
def readDirectives (versioned : Bool) (p : Position) : List Token → Except Fault Position
  | [] => .error p.fault
  | t :: ts =>
    match t.kind with
    | .version major minor =>
      if versioned then t.fail .repeatedVersion none
      else if major != 1 || (minor != 1 && minor != 2) then t.fail .wrongVersion none
      else readDirectives true p ts
    | .handle handle text =>
      if p.handles.any (·.1 == handle) then t.fail .repeatedHandle none
      else readDirectives versioned { p with handles := p.handles ++ [(handle, text)] } ts
    | _ => .ok { p with tokens := t :: ts, handles := p.handles ++ commonHandles }

/-- Reads the root of a document behind its mark, where it may be left out. -/
def parseRoot (fuel : Nat) (p : Position) : Node × After :=
  let left (k : TokenKind) : Bool := match k with
    | .version _ _ | .handle _ _ | .documentStart | .documentEnd | .streamEnd => true
    | _ => false
  parseNodeUnless true false left none (fuel + 1) p

/-- Parses the start of a document and its root. -/
def parseDocument (p : Position) : Node × After :=
  let fuel := 8 * p.tokens.length + 8
  match p.peek with
  | .error f => stuck f
  | .ok t =>
    match t.kind with
    | .streamEnd => (.absent t.start, .ok p)
    | .version _ _ | .handle _ _ | .documentStart =>
      match readDirectives false p p.tokens with
      | .error f => stuck f
      | .ok p =>
        match p.peek with
        | .error f => stuck f
        | .ok t =>
          if t.kind == .documentStart then parseRoot fuel p.skip
          else stuck (.found .missingDocumentStart t.start none)
    | _ => parseNode true false fuel { p with handles := commonHandles }

/-- Whether anything but ends of documents comes behind one. -/
def hasMore : List Token → Bool
  | [] => true
  | t :: ts =>
    match t.kind with
    | .documentEnd => hasMore ts
    | .streamEnd => false
    | _ => true

/-- The document that a text holds. -/
def Document.ofText (text : List Char) : Document :=
  let stream := TokenStream.ofText text
  let p : Position := { tokens := stream.tokens, fault := stream.fault.getD (.control 0) }
  let (root, after) := parseDocument p
  match root, after with
  | .absent m, _ => ⟨.absent m, .ok (), false⟩
  | root, .error f => ⟨root, .error f, false⟩
  | root, .ok p => ⟨root, p.peek.map fun _ => (), hasMore p.tokens⟩

end PlotDeck.Yaml

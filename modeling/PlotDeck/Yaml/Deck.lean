import PlotDeck.Deck.Reader
import PlotDeck.Yaml.Node

/-!
# Decks in YAML

How a YAML tree presents the data of a deck. Any scalar can be read as a text, but a plot entry is
told by what its scalars stand for. What is left out counts as an empty record or list; null does
not. References are followed where values are read, though not without end: neither too deep nor too
often.
-/

namespace PlotDeck.Yaml

/-- The way from the root of a document to a part of it. -/
inductive Path where
  /-- The root. -/
  | root
  /-- An item of a list. -/
  | item (path : Path) (index : Nat)
  /-- A member of a record. -/
  | member (path : Path) (name : String)
  /-- A member of which the name is not a scalar. -/
  | unnamed (path : Path)
deriving DecidableEq, Repr

namespace Path

/-- The text of a path. -/
def text : Path → String
  | root => "."
  | item path index => path.text ++ s!"[{index}]"
  | member path name => (match path with | root => "" | _ => path.text ++ ".") ++ name
  | unnamed path => (match path with | root => "" | _ => path.text ++ ".") ++ "?"

end Path

/-- A part of a document. -/
structure Place where
  /-- Where it starts. -/
  mark : Mark
  /-- The way to it. -/
  path : Path
deriving DecidableEq, Repr

/-- Why a YAML text does not describe a deck. -/
inductive Failure where
  /-- It is no YAML. -/
  | syntactic (fault : Fault)
  /-- It is YAML, but not of a deck. -/
  | content (mismatch : Mismatch) (place : Place)
  /-- Values are nested too deeply. -/
  | tooDeep (mark : Mark)
  /-- References are followed too often. -/
  | tooManyReferences
  /-- Something comes behind the document. -/
  | manyDocuments
deriving DecidableEq, Repr

namespace Failure

/-- The text of a failure. -/
def message (style : FoundStyle) : Failure → String
  | syntactic fault => fault.message
  | content mismatch place =>
    (match place.path with | .root => "" | path => path.text ++ ": ") ++ mismatch.message style ++
      Fault.at? place.mark
  | tooDeep mark => "recursion limit exceeded" ++ Fault.at? mark
  | tooManyReferences => "repetition limit exceeded"
  | manyDocuments => "deserializing from YAML containing more than one document is not supported"

/-- Where a failure lies. -/
def mark? : Failure → Option Mark
  | syntactic fault => some fault.mark
  | content _ place => some place.mark
  | tooDeep mark => some mark
  | tooManyReferences | manyDocuments => none

end Failure

/-- Reading counts the references it follows. -/
abbrev Reading := StateT Nat (Except Failure)

/-- Takes over what the notation says. -/
def ofNotation {α : Type} (e : Except Fault α) : Reading α := fun n =>
  match e with
  | .ok a => .ok (a, n)
  | .error f => .error (.syntactic f)

/-- What references lead to. -/
structure References where
  /-- The nodes with anchors, the last of a number first. -/
  nodes : List (Nat × Node)
  /-- How many references may be followed. -/
  limit : Nat

/-- Follows a reference; any other node stays as it is. -/
def References.follow (refs : References) (node : Node) : Reading Node := fun n =>
  match node with
  | .reference anchor mark =>
    if refs.limit < n + 1 then .error .tooManyReferences
    else .ok (((refs.nodes.find? (·.1 == anchor)).map (·.2)).getD (.absent mark), n + 1)
  | _ => .ok (node, n)

namespace Node

/-- Where a node starts. -/
def mark : Node → Mark
  | broken fault => fault.mark
  | absent mark | reference _ mark => mark
  | scalar _ props | sequence _ props _ | mapping _ props _ => props.mark

/-- Refuses a node that is not what was expected. -/
def refuse {α : Type} (expected : String) (path : Path) (node : Node) : Reading α :=
  let content (m : Mismatch) : Reading α := throw (.content m ⟨node.mark, path⟩)
  match node with
  | broken fault => throw (.syntactic fault)
  | absent _ | reference _ _ => content (.wrongType .null expected)
  | scalar s _ =>
    match s.found with
    | .ok found => content (.wrongType found expected)
    | .error m => content m
  | sequence _ _ _ => content (.wrongType .list expected)
  | mapping _ _ _ => content (.wrongType .record expected)

/-- The path of an entry's value. -/
def pathOfValue (path : Path) : Node → Path
  | scalar s _ => .member path s.string
  | _ => .unnamed path

/-- The tag of a node. -/
def tag? : Node → Option (List Char)
  | scalar s _ => s.tag
  | sequence _ props _ | mapping _ props _ => props.tag
  | _ => none

end Node

/-! ### Plain data -/

/-- A scalar as plain data. Numbers count as names of members unless they have a minus sign. -/
def dataOfFound (s : Scalar) : Found → Reading Data
  | .text t => return .text t
  | .integer (.ofNat n) => return if s.text.head? == some '-' then .other else .count n
  | _ => return .other

/-- Reads items as plain data. -/
def dataOfItems (read : Path → Node → Reading Data) (path : Path) :
    Nat → List Node → Reading (List Data)
  | _, [] => return []
  | i, node :: rest => do
    let a ← read (.item path i) node
    let l ← dataOfItems read path (i + 1) rest
    return a :: l

/-- Reads entries as plain data. -/
def dataOfEntries (read : Path → Node → Reading Data) (path : Path) :
    List (Node × Node) → Reading (List (Data × Data))
  | [] => return []
  | (name, value) :: rest => do
    let n ← read path name
    let a ← read (name.pathOfValue path) value
    let l ← dataOfEntries read path rest
    return (n, a) :: l

/-- Reads a node as plain data, given how its parts are read if they may have a level of their
own. -/
def readData (refs : References) (parts : Option (Path → Node → Reading Data)) (path : Path)
    (node : Node) : Reading Data := do
  let node ← refs.follow node
  let content {α : Type} (m : Mismatch) : Reading α := throw (.content m ⟨node.mark, path⟩)
  if (node.tag?.map fun tag => isLocalTag tag && isTextTag tag).getD false then content .tagged
  else
    match node with
    | .broken fault => throw (.syntactic fault)
    | .absent _ | .reference _ _ => return .other
    | .scalar s _ =>
      match s.found with
      | .ok (.wideInteger n) => content (.wrongType (.wideInteger n) "any value")
      | .ok found => dataOfFound s found
      | .error m => content m
    | .sequence items props ending =>
      match parts with
      | none => throw (.tooDeep props.mark)
      | some read => do
        let l ← dataOfItems read path 0 items
        ofNotation ending
        return .list l
    | .mapping entries props ending =>
      match parts with
      | none => throw (.tooDeep props.mark)
      | some read => do
        let l ← dataOfEntries read path entries
        ofNotation ending
        return .record l

/-- Reads a node as plain data, with so many levels left. -/
def data (refs : References) : Nat → Path → Node → Reading Data
  | 0 => readData refs none
  | depth + 1 => readData refs (some (data refs depth))

/-! ### Decks -/

/-- A node in a document. -/
structure Placed where
  /-- The node. -/
  node : Node
  /-- The way to it. -/
  path : Path
  /-- How many levels are left. -/
  depth : Nat
  /-- The record or list that it is part of. -/
  holder : Place

namespace Placed

/-- Where a node is. -/
def place (v : Placed) : Place := ⟨v.node.mark, v.path⟩

/-- Follows a reference. -/
def follow (refs : References) (v : Placed) : Reading Placed := do
  return { v with node := ← refs.follow v.node }

/-- Reads a text. -/
def text (refs : References) (v : Placed) : Reading String := do
  let v ← v.follow refs
  match v.node with
  | .scalar s _ => return s.string
  | node => node.refuse "a string" v.path

/-- Reads a text, or null for none. A value that is falsely tagged as null is the fault of the
record that it is part of. -/
def optionalText (refs : References) (v : Placed) : Reading (Option String) := do
  let v ← v.follow refs
  match v.node with
  | .scalar s _ =>
    if s.style != .plain then return some s.string
    else if s.tag = some (coreTag "null") then
      if isNull s.text then return none
      else throw (.content (.wrongValue (.text s.string) "null") v.holder)
    else if s.tag.isSome then return some s.string
    else if s.text = [] || isNull s.text then return none
    else return some s.string
  | .absent _ => return none
  | node => node.refuse "a string" v.path

/-- Reads a truth value. -/
def flag (refs : References) (v : Placed) : Reading Bool := do
  let v ← v.follow refs
  match v.node with
  | .scalar s _ =>
    let readable := s.style = .plain || (s.style = .literal && s.tag = some (coreTag "bool"))
    match if readable then flagOf? s.text else none with
    | some b => return b
    | none => v.node.refuse "a boolean" v.path
  | node => node.refuse "a boolean" v.path

/-- Items of a list as given. -/
def givenItems (v : Placed) (depth : Nat) :
    Nat → List Node → List (GivenItem Reading Placed Failure)
  | _, [] => []
  | i, node :: rest =>
    { value := ⟨node, .item v.path i, depth, v.place⟩
      leave := return ()
      refuse := fun m => .content m v.place } :: givenItems v depth (i + 1) rest

/-- Opens a list. -/
def openList (refs : References) (v : Placed) : Reading (GivenItems Reading Placed Failure) := do
  let v ← v.follow refs
  let given (items : List (GivenItem Reading Placed Failure)) (ending : Except Fault Unit) :
      Reading (GivenItems Reading Placed Failure) :=
    return { items, close := ofNotation ending, refuse := fun m => .content m v.place }
  match v.node with
  | .sequence items props ending =>
    match v.depth with
    | 0 => throw (.tooDeep props.mark)
    | depth + 1 => given (v.givenItems depth 0 items) ending
  | .absent _ => given [] (.ok ())
  | .scalar s _ =>
    if s.isEmpty then given [] (.ok ()) else v.node.refuse "a sequence" v.path
  | node => node.refuse "a sequence" v.path

/-- Entries of a record as given. -/
def givenMembers (refs : References) (v : Placed) (depth : Nat) (entries : List (Node × Node)) :
    List (GivenMember Reading Placed Failure) :=
  entries.map fun (name, value) =>
    { name := do
        let node ← refs.follow name
        match node with
        | .scalar s _ => return s.string
        | _ => node.refuse "field identifier" v.path
      value := ⟨value, name.pathOfValue v.path, depth, v.place⟩
      refuse := fun m => .content m v.place }

/-- Opens a record. -/
def openRecord (refs : References) (expected : String) (v : Placed) :
    Reading (GivenRecord Reading Placed Failure) := do
  let v ← v.follow refs
  let given (members : List (GivenMember Reading Placed Failure)) (ending : Except Fault Unit) :
      Reading (GivenRecord Reading Placed Failure) :=
    return .byName { members, close := ofNotation ending, refuse := fun m => .content m v.place }
  match v.node with
  | .mapping entries props ending =>
    match v.depth with
    | 0 => throw (.tooDeep props.mark)
    | depth + 1 => given (v.givenMembers refs depth entries) ending
  | .absent _ => given [] (.ok ())
  | .scalar s _ => if s.isEmpty then given [] (.ok ()) else v.node.refuse expected v.path
  | node => node.refuse expected v.path

end Placed

/-- How YAML presents a deck. -/
def source (refs : References) : Source Reading Placed Failure where
  text := Placed.text refs
  optionalText := Placed.optionalText refs
  flag := Placed.flag refs
  record := Placed.openRecord refs
  list := Placed.openList refs
  data v := data refs v.depth v.path v.node
  pass v := ofNotation v.node.ending

/-- How deep values may be nested. -/
def maxDepth : Nat := 128

/-- Reads a deck from a YAML text. -/
def readDeck (text : List Char) : Except Failure Deck := do
  let document := Document.ofText text
  let refs : References := {
    nodes := document.root.anchored.reverse
    limit := 100 * document.root.eventCount }
  let root : Placed := ⟨document.root, .root, maxDepth, ⟨{}, .root⟩⟩
  let (deck, _) ← (Deck.read (source refs) root).run 0
  match document.ending with
  | .error fault => throw (.syntactic fault)
  | .ok _ => if document.more then throw .manyDocuments else return deck

end PlotDeck.Yaml

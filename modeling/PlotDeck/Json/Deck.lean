import PlotDeck.Deck.Reader
import PlotDeck.Json.Node

/-!
# Decks in JSON

How a JSON tree presents the data of a deck. A value of the wrong kind is a fault behind it, or at
its bracket if it has parts. A fault of a list or record as a whole lies behind the attempt to end
it, so behind its closing bracket if that is what comes next.
-/

namespace PlotDeck.Json

/-- How deep lists and records may be nested in a value that is read. -/
def maxDepth : Nat := 127

/-- The fault of a value that is not what was expected. -/
def Node.refuse (expected : String) : Node → Fault
  | .broken failure => failure.read
  | .scalar (.error f) _ => f
  | .scalar (.ok found) after => .here (.mismatch (.wrongType found expected)) after
  | .list start _ _ => .here (.mismatch (.wrongType .list expected)) start
  | .record start _ _ => .here (.mismatch (.wrongType .record expected)) start

/-- Reads a text. -/
def Node.text : Node → Except Fault String
  | .scalar (.ok (.text s)) _ => .ok s
  | node => .error (node.refuse "a string")

/-- Reads a text, or null for none. -/
def Node.optionalText : Node → Except Fault (Option String)
  | .scalar (.ok .null) _ => .ok none
  | node => node.text.map some

/-- Reads a truth value. -/
def Node.flag : Node → Except Fault Bool
  | .scalar (.ok (.flag b)) _ => .ok b
  | node => .error (node.refuse "a boolean")

/-- Passes over a value. -/
def Node.pass (node : Node) : Except Fault Unit :=
  match node.ending with
  | .ok _ => .ok ()
  | .error failure => .error failure.pass

/-- Ends a list or record that has no more parts. -/
def close : Except Failure (List Char) → Except Fault Unit
  | .ok _ => .ok ()
  | .error failure => .error failure.read

/-- The fault of a list or record as a whole. -/
def refuseWhole (ending : Except Failure (List Char)) (m : Mismatch) : Fault :=
  .here (.mismatch m) (ending.toOption.getD [])

/-- Ends a list at a place where items may follow. -/
def leaveList (t : List Char) : Except Fault Unit :=
  match skipSpace t with
  | [] => .error (.here .endInList [])
  | c :: r =>
    if c = ']' then .ok ()
    else if c = ',' then
      match skipSpace r with
      | ']' :: r' => .error (.inByte .trailingComma (']' :: r'))
      | r' => .error (.inByte .trailingText r')
    else .error (.inByte .trailingText (c :: r))

/-- Where the attempt to end a list comes to. -/
def afterList (t : List Char) : List Char :=
  match skipSpace t with
  | [] => []
  | c :: r => if c = ']' then r else if c = ',' then skipSpace r else c :: r

/-- Where the attempt to end a record comes to. -/
def afterRecord (t : List Char) : List Char :=
  match skipSpace t with
  | [] => []
  | c :: r => if c = '\x7d' then r else c :: r

/-- The items of a list as given. -/
def Items.given : Items → List (GivenItem (Except Fault) Node Fault)
  | .nil => []
  | .cons item rest =>
    let after := item.ending.toOption.getD []
    { value := item
      leave := leaveList after
      refuse := fun m => .here (.mismatch m) (afterList after) } :: rest.given

/-- The members of a record as given. -/
def Members.given : Members → List (GivenMember (Except Fault) Node Fault)
  | .nil => []
  | .cons name afterName value rest =>
    { name, value, refuse := fun m => .here (.mismatch m) (afterRecord afterName) } :: rest.given

/-- Opens a list. -/
def Node.openList : Node → Except Fault (GivenItems (Except Fault) Node Fault)
  | .list _ items ending =>
    .ok { items := items.given, close := close ending, refuse := refuseWhole ending }
  | node => .error (node.refuse "a sequence")

/-- Opens a record, which may be given by order in a list. -/
def Node.openRecord (expected : String) :
    Node → Except Fault (GivenRecord (Except Fault) Node Fault)
  | .record _ members ending =>
    .ok (.byName { members := members.given, close := close ending, refuse := refuseWhole ending })
  | .list _ items ending =>
    .ok (.byOrder { items := items.given, close := close ending, refuse := refuseWhole ending })
  | node => .error (node.refuse expected)

/-- A value without parts as plain data. -/
def dataOf : Found → Data
  | .text s => .text s
  | .integer (.ofNat n) => .count n
  | _ => .other

mutual
/-- Reads a value as plain data, inside `depth` lists and records. -/
def Node.data (depth : Nat) : Node → Except Fault Data
  | .broken failure => .error failure.read
  | .scalar value _ => value.map dataOf
  | .list start items ending =>
    if maxDepth ≤ depth then .error (.inByte .tooDeep start)
    else do
      let l ← items.data (depth + 1)
      close ending
      return .list l
  | .record start members ending =>
    if maxDepth ≤ depth then .error (.inByte .tooDeep start)
    else do
      let l ← members.data (depth + 1)
      close ending
      return .record l

/-- Reads the items of a list as plain data. -/
def Items.data (depth : Nat) : Items → Except Fault (List Data)
  | .nil => .ok []
  | .cons item rest => do
    let a ← item.data depth
    let l ← rest.data depth
    return a :: l

/-- Reads the members of a record as plain data. -/
def Members.data (depth : Nat) : Members → Except Fault (List (Data × Data))
  | .nil => .ok []
  | .cons name _ value rest => do
    let n ← name
    let a ← value.data depth
    let l ← rest.data depth
    return (.text n, a) :: l
end

/-- How JSON presents a deck. A plot entry lies inside the deck, its slides, a slide and its
plots. -/
def source : Source (Except Fault) Node Fault where
  text := Node.text
  optionalText := Node.optionalText
  flag := Node.flag
  record := Node.openRecord
  list := Node.openList
  data := Node.data 4
  pass := Node.pass

/-- Reads a deck from a JSON text. Nothing but space may follow it. -/
def readDeck (t : List Char) : Except Fault Deck := do
  let node := parse t
  let deck ← Deck.read source node
  match node.ending with
  | .error failure => throw failure.read
  | .ok rest =>
    match skipSpace rest with
    | [] => return deck
    | r => throw (.inByte .trailingText r)

end PlotDeck.Json

import PlotDeck.Deck.Reader
import PlotDeck.Toml.Document

/-!
# Decks in TOML

How a TOML tree presents the data of a deck. The text is whole before the deck is read from it, so a
fault of the notation always comes first. A mismatch lies in the part it is about; a table that has
no place of its own lies at its key.
-/

namespace PlotDeck.Toml

/-- A mismatch and the part of the text it is about. -/
structure Misfit where
  /-- What is wrong. -/
  mismatch : Mismatch
  /-- Where it is. -/
  region : Region
deriving DecidableEq, Repr

/-- A node with the place it is known by. -/
structure Placed where
  /-- The node. -/
  node : Node
  /-- Its place, or else that of its key or of the table that holds it. -/
  region : Region

namespace Placed

/-- A node with its own place, if it has one. -/
def own (node : Node) (otherwise : Region) : Placed := ⟨node, node.region?.getD otherwise⟩

/-- What a node is to someone who expected something else. A date counts as a record. -/
def found (v : Placed) : Found :=
  match v.node with
  | .scalar (.text s) _ => .text s
  | .scalar (.integer n) _ => .integer n
  | .scalar (.float x) _ => .float x
  | .scalar (.flag b) _ => .flag b
  | .scalar .moment _ => .record
  | .array _ _ | .tables _ => .list
  | .table _ _ _ => .record

/-- The mismatch of a value that is not what was expected. -/
def refuse {α : Type} (v : Placed) (expected : String) : Except Misfit α :=
  .error ⟨.wrongType v.found expected, v.region⟩

/-- Reads a text. -/
def text (v : Placed) : Except Misfit String :=
  match v.node with
  | .scalar (.text s) _ => .ok s
  | _ => v.refuse "a string"

/-- Reads a truth value. -/
def flag (v : Placed) : Except Misfit Bool :=
  match v.node with
  | .scalar (.flag b) _ => .ok b
  | _ => v.refuse "a boolean"

/-- The items of a list as given. -/
def givenItems (region : Region) (items : List Node) :
    GivenItems (Except Misfit) Placed Misfit where
  items := items.map fun node =>
    { value := own node region, leave := .ok (), refuse := fun m => ⟨m, region⟩ }
  close := .ok ()
  refuse m := ⟨m, region⟩

/-- The members of a table as given. -/
def givenMembers (region : Region) (entries : List (Key × Node)) :
    GivenMembers (Except Misfit) Placed Misfit where
  members := entries.map fun (key, node) =>
    { name := .ok key.name, value := own node key.region, refuse := fun m => ⟨m, key.region⟩ }
  close := .ok ()
  refuse m := ⟨m, region⟩

/-- Opens a list. -/
def openList (v : Placed) : Except Misfit (GivenItems (Except Misfit) Placed Misfit) :=
  match v.node with
  | .array items _ | .tables items => .ok (givenItems v.region items)
  | _ => v.refuse "a sequence"

/-- Opens a record, which may be given by order in a list. A date has no members that anyone
knows. -/
def openRecord (expected : String) (v : Placed) :
    Except Misfit (GivenRecord (Except Misfit) Placed Misfit) :=
  match v.node with
  | .table _ entries _ => .ok (.byName (givenMembers v.region entries))
  | .scalar .moment _ => .ok (.byName (givenMembers v.region []))
  | .array items _ | .tables items => .ok (.byOrder (givenItems v.region items))
  | _ => v.refuse expected

end Placed

mutual
/-- A node as plain data. -/
def Node.data : Node → Data
  | .scalar (.text s) _ => .text s
  | .scalar _ _ => .other
  | .array items _ => .list (dataOfItems items)
  | .tables items => .list (dataOfItems items)
  | .table _ entries _ => .record (dataOfEntries entries)

/-- Nodes as plain data. -/
def dataOfItems : List Node → List Data
  | [] => []
  | node :: rest => node.data :: dataOfItems rest

/-- Keys and nodes as plain data. -/
def dataOfEntries : List (Key × Node) → List (Data × Data)
  | [] => []
  | (key, node) :: rest => (.text key.name, node.data) :: dataOfEntries rest
end

/-- How TOML presents a deck. -/
def source : Source (Except Misfit) Placed Misfit where
  text := Placed.text
  optionalText v := v.text.map some
  flag := Placed.flag
  record := Placed.openRecord
  list := Placed.openList
  data v := .ok v.node.data
  pass _ := .ok ()

/-- Why a TOML text does not describe a deck. -/
inductive Failure where
  /-- It is no TOML. -/
  | syntactic (fault : Fault)
  /-- It is TOML, but not of a deck. -/
  | content (misfit : Misfit)

/-- Reads a deck from a TOML text. -/
def readDeck (t : List Char) : Except Failure Deck := do
  let root ← (parse t).mapError .syntactic
  (Deck.read source (.own root ⟨t, t⟩)).mapError .content

end PlotDeck.Toml

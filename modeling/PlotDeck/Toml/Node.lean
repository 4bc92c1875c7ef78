import PlotDeck.Decimal.Binary64
import PlotDeck.Toml.Parser

/-!
# TOML trees

The values of a TOML text form a tree of tables. A table grows in three ways: under a header of its
own, as a step on the way to the header of another table (it is then **implied**), or as a step of
a dotted key. `Node.update` walks along a path, making tables on the way, and says when a path
cannot be followed; `Node.put` gives a table a key that it does not have yet.
-/

namespace PlotDeck.Toml

open Decimal (Binary64)

/-- A part of a text: the text from its start on, and the text behind it. -/
structure Region where
  /-- The text from the start of the part on. -/
  start : List Char
  /-- The text behind the part. -/
  stop : List Char
deriving DecidableEq, Repr

/-- A key, or one step of a dotted key. -/
structure Key where
  /-- The key without quotes. -/
  name : String
  /-- Where it stands. -/
  region : Region
deriving DecidableEq, Repr

/-- A value without parts. -/
inductive Scalar where
  /-- A string. -/
  | text (s : String)
  /-- A whole number. -/
  | integer (n : Int)
  /-- A floating-point number. -/
  | float (x : Binary64)
  /-- A truth value. -/
  | flag (b : Bool)
  /-- A date or a time. -/
  | moment
deriving DecidableEq, Repr

/-- What a value without parts is called. -/
def Scalar.kind : Scalar → String
  | text _ => "string"
  | integer _ => "integer"
  | float _ => "float"
  | flag _ => "boolean"
  | moment => "datetime"

/-- How a table came about. -/
inductive Origin where
  /-- In braces. -/
  | inline
  /-- Under a header of its own, or as the table that the whole text is. -/
  | header
  /-- On the way to the header of another table. -/
  | implied
  /-- As a step of a dotted key. -/
  | dotted
deriving DecidableEq, Repr

/-- A node of the tree. -/
inductive Node where
  /-- A value without parts. -/
  | scalar (value : Scalar) (region : Region)
  /-- Values in brackets. -/
  | array (items : List Node) (region : Region)
  /-- Tables that share a header in double brackets. -/
  | tables (items : List Node)
  /-- A table. -/
  | table (origin : Origin) (entries : List (Key × Node)) (region : Option Region)

namespace Node

/-- Where a table itself stands. -/
def tableRegion? : Node → Option Region
  | table _ _ region => region
  | _ => none

/-- Where a node stands, unless nothing but its keys shows it. Tables that share a header reach from
the first to the last. -/
def region? : Node → Option Region
  | scalar _ region => some region
  | array _ region => some region
  | tables items => do
    let first ← (← items.head?).tableRegion?
    let last ← (← items.getLast?).tableRegion?
    return ⟨first.start, last.stop⟩
  | table _ _ region => region

/-- The value of a key. -/
def lookup (name : String) (entries : List (Key × Node)) : Option Node :=
  (entries.find? (·.1.name == name)).map (·.2)

/-- Gives a key that is there another value. -/
def replace (name : String) (value : Node) (entries : List (Key × Node)) : List (Key × Node) :=
  entries.map fun (key, old) => (key, if key.name == name then value else old)

/-! ### Paths -/

/-- What a path belongs to. -/
inductive Walk where
  /-- The header of a table. -/
  | header
  /-- A dotted key. -/
  | key
  /-- A dotted key in braces. -/
  | inlineKey
deriving DecidableEq, Repr

/-- How a table comes about that is missing on the way. -/
def Walk.makes : Walk → Origin
  | header => .implied
  | key | inlineKey => .dotted

/-- Why a path cannot go through what it found at its last step. A dotted key does not go through a
table that was written out. -/
def Walk.refusal? (walk : Walk) (path : List String) : Node → Option Cause
  | scalar value _ => some (.notATable path value.kind)
  | array _ _ => some (.notATable path "array")
  | tables _ => none
  | table .inline _ _ =>
    if walk = .inlineKey then some (.duplicateKey (path.getLastD "") none)
    else some (.notATable path "inline table")
  | table .header _ _ =>
    if walk = .header then none else some (.duplicateKey (path.getLastD "") none)
  | table _ _ _ => none

/-- Changes the table at the end of a path, making the tables on the way. A path through tables that
share a header goes into the last of them. The names `seen` are the steps that led here. -/
def update (walk : Walk) (change : Node → Except Cause Node) :
    List String → List Key → Node → Except Cause Node
  | _, [], node => change node
  | seen, key :: path, .table origin entries region => do
    let seen := seen ++ [key.name]
    match lookup key.name entries with
    | none =>
      let child ← update walk change seen path (.table walk.makes [] none)
      return .table origin (entries ++ [(key, child)]) region
    | some child =>
      if let some cause := walk.refusal? seen child then throw cause
      let child ← match child with
        | .tables items =>
          match items.getLast? with
          | some last => do
            let last ← update walk change seen path last
            pure (.tables (items.dropLast ++ [last]))
          | none => pure child
        | _ => update walk change seen path child
      return .table origin (replace key.name child entries) region
  | _, _ :: _, node => .ok node

/-- Gives a table a key. The table may be reached by a dotted key just in case it came about that
way; `holder` is the table that a key given twice is said to be in. -/
def put (key : Key) (value : Node) (byStep : Bool) (holder : Option (List String)) :
    Node → Except Cause Node
  | .table origin entries region =>
    if (origin == .dotted) != byStep then .error (.duplicateKey key.name none)
    else if (lookup key.name entries).isSome then .error (.duplicateKey key.name holder)
    else .ok (.table origin (entries ++ [(key, value)]) region)
  | node => .ok node

/-- Gives a table a key at the end of a path of dotted steps. -/
def putAt (node : Node) (walk : Walk) (path : List Key) (key : Key) (value : Node)
    (holder : Option (List String)) : Except Cause Node :=
  update walk (put key value (!path.isEmpty) holder) [] path node

end Node

end PlotDeck.Toml

import PlotDeck.Json.Number
import PlotDeck.Json.String

/-!
# JSON trees

A JSON text is turned into a tree that keeps the places where its parts begin and end. The tree of a
faulty text goes as far as the text can be passed over, and holds the fault where it stops; so a
reader that walks through the tree meets faults in the order of the text, those of the notation as
well as its own. A value that can be passed over but not read, such as a string with a lone
surrogate, is a fault only for a reader that reads it.
-/

namespace PlotDeck.Json

/-- A fault of the notation; which one it is depends on whether the value is read or passed over. -/
structure Failure where
  /-- The fault for one who reads the value. -/
  read : Fault
  /-- The fault for one who passes over it. -/
  pass : Fault
deriving DecidableEq, Repr

/-- The same fault for everyone. -/
def Failure.both (f : Fault) : Failure := ⟨f, f⟩

mutual
/-- A value in a JSON text. -/
inductive Node where
  /-- No value that could be read or passed over. -/
  | broken (failure : Failure)
  /-- A value without parts: what it reads as, and what is left after it. -/
  | scalar (value : Except Fault Found) (after : List Char)
  /-- A list: what is left from its bracket, its items, and what is left after it. -/
  | list (start : List Char) (items : Items) (ending : Except Failure (List Char))
  /-- A record: what is left from its brace, its members, and what is left after it. -/
  | record (start : List Char) (members : Members) (ending : Except Failure (List Char))

/-- The items of a list. -/
inductive Items where
  /-- No more items. -/
  | nil
  /-- An item and the items after it. -/
  | cons (item : Node) (rest : Items)

/-- The members of a record. -/
inductive Members where
  /-- No more members. -/
  | nil
  /-- A member and the members after it: its name, what is left after the name, and its value. -/
  | cons (name : Except Fault String) (afterName : List Char) (value : Node) (rest : Members)
end

/-- What is left after a value, unless the text is broken before its end. -/
def Node.ending : Node → Except Failure (List Char)
  | .broken failure => .error failure
  | .scalar _ after => .ok after
  | .list _ _ ending => ending
  | .record _ _ ending => ending

/-- A character that may stand between the parts of a text. -/
def isSpace (c : Char) : Bool := c == ' ' || c == '\n' || c == '\t' || c == '\r'

/-- The text from the next part on. -/
def skipSpace (t : List Char) : List Char := t.dropWhile isSpace

/-- Reads the letters of a word. -/
def readWord : List Char → List Char → Except Fault (List Char)
  | [], t => .ok t
  | _ :: _, [] => .error (.here .endInValue [])
  | w :: ws, c :: r => if w = c then readWord ws r else .error (.inByte .expectedWord (c :: r))

/-- The node of a word that has started with its first letter. -/
def wordNode (value : Found) (letters : List Char) (t : List Char) : Node :=
  match readWord letters t with
  | .ok after => .scalar (.ok value) after
  | .error f => .broken (.both f)

/-- The node of something that can be read and passed over in different ways. -/
def scalarNode (read : Except Fault (Found × List Char)) (pass : Except Fault (List Char)) : Node :=
  match read, pass with
  | .ok (value, _), .ok after => .scalar (.ok value) after
  | .error f, .ok after => .scalar (.error f) after
  | .error f, .error g => .broken ⟨f, g⟩
  | .ok _, .error g => .broken (.both g)

/-- The node of a number, of which the sign has been read. -/
def numberNode (negative : Bool) (t : List Char) : Node :=
  scalarNode (readNumber negative t) (passNumber t)

/-- The node of a string, of which the opening quote has been read. -/
def stringNode (t : List Char) : Node :=
  scalarNode ((readString t).map fun (s, r) => (.text s, r)) (passString t)

mutual
/-- Parses the value at the start of a text; `fuel` bounds how many parts there are. -/
def parseValue : Nat → List Char → Node
  | 0, t => .broken (.both (.here .endInValue t))
  | fuel + 1, t =>
    match skipSpace t with
    | [] => .broken (.both (.here .endInValue []))
    | c :: r =>
      match c with
      | 'n' => wordNode .null ['u', 'l', 'l'] r
      | 't' => wordNode (.flag true) ['r', 'u', 'e'] r
      | 'f' => wordNode (.flag false) ['a', 'l', 's', 'e'] r
      | '"' => stringNode r
      | '-' => numberNode true r
      | '[' =>
        let (items, ending) := parseItems fuel true r
        .list (c :: r) items ending
      | '\x7b' =>
        let (members, ending) := parseMembers fuel true r
        .record (c :: r) members ending
      | _ =>
        if c.isDigit then numberNode false (c :: r)
        else .broken (.both (.inByte .expectedValue (c :: r)))

/-- Parses the items of a list from the first one on, or from behind an item. -/
def parseItems : Nat → Bool → List Char → Items × Except Failure (List Char)
  | 0, _, t => (.nil, .error (.both (.here .endInList t)))
  | fuel + 1, first, t =>
    match skipSpace t with
    | [] => (.nil, .error (.both (.here .endInList [])))
    | c :: r =>
      if c = ']' then (.nil, .ok r)
      else if first then parseItem fuel (c :: r)
      else if c = ',' then
        match skipSpace r with
        | [] => (.nil, .error (.both (.here .endInValue [])))
        | d :: r' =>
          if d = ']' then
            (.nil, .error ⟨.inByte .trailingComma (d :: r'), .inByte .expectedValue (d :: r')⟩)
          else parseItem fuel (d :: r')
      else (.nil, .error (.both (.inByte .expectedListEnd (c :: r))))

/-- Parses an item and the items after it. -/
def parseItem : Nat → List Char → Items × Except Failure (List Char)
  | 0, t => (.nil, .error (.both (.here .endInList t)))
  | fuel + 1, t =>
    let item := parseValue fuel t
    match item.ending with
    | .error failure => (.cons item .nil, .error failure)
    | .ok r =>
      let (rest, ending) := parseItems fuel false r
      (.cons item rest, ending)

/-- Parses the members of a record from the first one on, or from behind a member. -/
def parseMembers : Nat → Bool → List Char → Members × Except Failure (List Char)
  | 0, _, t => (.nil, .error (.both (.here .endInRecord t)))
  | fuel + 1, first, t =>
    match skipSpace t with
    | [] => (.nil, .error (.both (.here .endInRecord [])))
    | c :: r =>
      if c = '\x7d' then (.nil, .ok r)
      else if first then
        if c = '"' then parseMember fuel r
        else (.nil, .error (.both (.inByte .expectedName (c :: r))))
      else if c = ',' then
        match skipSpace r with
        | [] => (.nil, .error ⟨.here .endInValue [], .here .endInRecord []⟩)
        | d :: r' =>
          if d = '"' then parseMember fuel r'
          else if d = '\x7d' then
            (.nil, .error ⟨.inByte .trailingComma (d :: r'), .inByte .expectedName (d :: r')⟩)
          else (.nil, .error (.both (.inByte .expectedName (d :: r'))))
      else (.nil, .error (.both (.inByte .expectedRecordEnd (c :: r))))

/-- Parses a member, of which the opening quote has been read, and the members after it. -/
def parseMember : Nat → List Char → Members × Except Failure (List Char)
  | 0, t => (.nil, .error (.both (.here .endInRecord t)))
  | fuel + 1, t =>
    let name := (readString t).map (·.1)
    match passString t with
    | .error g =>
      let failure : Failure := match name with
        | .error f => ⟨f, g⟩
        | .ok _ => .both g
      (.cons name [] (.broken failure) .nil, .error failure)
    | .ok afterName =>
      let value := match skipSpace afterName with
        | [] => Node.broken (.both (.here .endInRecord []))
        | c :: r =>
          if c = ':' then parseValue fuel r
          else .broken (.both (.inByte .expectedColon (c :: r)))
      match value.ending with
      | .error failure => (.cons name afterName value .nil, .error failure)
      | .ok r =>
        let (rest, ending) := parseMembers fuel false r
        (.cons name afterName value rest, ending)
end

/-- The tree of a JSON text. Every part takes at least one character, and is met by at most three of
the functions above before one is taken. -/
def parse (t : List Char) : Node := parseValue (3 * t.length + 3) t

end PlotDeck.Json

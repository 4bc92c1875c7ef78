import PlotDeck.Text.Position

/-!
# Paths

A path is text whose names are separated by slashes. Empty names and single dots say nothing and are
passed over, except for a dot at the very start. The functions here answer questions about the last
name of a path without touching any file, and keep the text of a path as it was written wherever
they do not have to change it.

Only paths that are texts are paths here. A machine takes any bytes for a path, and where such bytes
are no text, the text that is made of them may be shared by several paths (see `RawPath`).
-/

namespace PlotDeck

/-- The path of a file or directory, if its bytes are the UTF-8 form of a text. -/
structure Path where
  /-- The path as written. -/
  text : String
deriving DecidableEq, Repr, Inhabited

namespace Path

/-- The parts of a text between slashes. -/
def splitSlashes : List Char → List (List Char)
  | [] => [[]]
  | c :: r =>
    if c = '/' then [] :: splitSlashes r
    else match splitSlashes r with
      | [] => [[c]]
      | l :: ls => (c :: l) :: ls

/-- What a path starts with before its first name: a slash, a dot of its own, or nothing. -/
def lead : List Char → List Char
  | '/' :: _ => ['/']
  | ['.'] | '.' :: '/' :: _ => ['.']
  | _ => []

/-- Whether a part between slashes names nothing. -/
def isIdle (part : List Char) : Bool := part == [] || part == ['.']

/-- The parts of a path in reverse order, without its lead and the idle parts at its end. -/
def partsBack (p : Path) : List (List Char) :=
  let t := p.text.toList
  (splitSlashes (t.drop (lead t).length)).reverse.dropWhile isIdle

/-- The path with this lead and these parts, given in reverse order; idle parts at its end go. -/
def ofPartsBack (lead : List Char) (parts : List (List Char)) : Path :=
  ⟨String.ofList (lead ++ List.intercalate ['/'] (parts.dropWhile isIdle).reverse)⟩

/-- The directory that holds what a path names. The root and the empty path have none. -/
def parent? (p : Path) : Option Path :=
  let lead := lead p.text.toList
  match p.partsBack with
  | _ :: rest => some (ofPartsBack lead rest)
  | [] => if lead = ['.'] then some ⟨""⟩ else none

/-- The last name of a path, unless it goes up a directory. -/
def fileName? (p : Path) : Option String :=
  match p.partsBack with
  | part :: _ => if part = ['.', '.'] then none else some (String.ofList part)
  | [] => none

/-- Splits a name at its last dot into stem and extension. A dot at the start of a name does not
count. -/
def splitExtension (name : List Char) : List Char × Option (List Char) :=
  match name.reverse.dropWhile (· != '.') with
  | _ :: stem =>
    if stem = [] then (name, none)
    else (stem.reverse, some (name.reverse.takeWhile (· != '.')).reverse)
  | [] => (name, none)

/-- The last name of a path without its extension. -/
def fileStem? (p : Path) : Option String :=
  p.fileName?.map fun name => String.ofList (splitExtension name.toList).1

/-- What follows the last dot in the last name of a path, unless that dot starts the name. -/
def extension? (p : Path) : Option String :=
  p.fileName?.bind fun name => (splitExtension name.toList).2.map String.ofList

/-- Whether a path starts at the root. -/
def isAbsolute (p : Path) : Bool := p.text.toList.head? == some '/'

/-- The path that `q` denotes when it is read from the directory `p`. -/
def join (p q : Path) : Path :=
  if q.isAbsolute then q
  else if p.text = "" ∨ p.text.toList.getLast? = some '/' then ⟨p.text ++ q.text⟩
  else ⟨p.text ++ "/" ++ q.text⟩

/-- The path followed by a dot and an extension; dots already in its last name stay. -/
def addExtension (p : Path) (ext : String) : Path := ⟨p.text ++ "." ++ ext⟩

/-- Drops `n` bytes off the end of a text; a character of which a byte is left stays. -/
def dropEndBytes (t : List Char) (n : Nat) : List Char :=
  let kept := Text.takeBytes t (Text.byteSize t - n)
  if Text.byteSize kept = Text.byteSize t - n then kept else t.take (kept.length + 1)

/-- Ends a path after the stem of its last name and appends an extension. A path that ends in no
name stays. -/
def setExtension (p : Path) (ext : String) : Path :=
  match p.partsBack with
  | part :: rest =>
    if part = ['.', '.'] then p
    else
      let stem := (splitExtension part).1
      let parts := List.intercalate ['/'] (stem :: rest).reverse
      ⟨String.ofList (lead p.text.toList ++ parts ++ if ext = "" then [] else '.' :: ext.toList)⟩
  | [] => p

/-- The path with another extension. The old extension is cut off the end of the text first, so a
name such as `..pdf` leaves a path that goes up a directory and takes no extension. -/
def withExtension (p : Path) (ext : String) : Path :=
  match p.extension? with
  | none => p.setExtension ext
  | some old =>
    setExtension ⟨String.ofList (dropEndBytes p.text.toList (Text.byteSize old.toList))⟩ ext

end Path

end PlotDeck

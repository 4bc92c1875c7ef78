import PlotDeck.Yaml.Token

/-!
# Anchors, tags and directives

The parts of a YAML text that stand before a node or a document and say something of it. A tag is
kept as the octets of its text, one character each; it goes no further than the first octet that is
zero.
-/

namespace PlotDeck.Yaml

/-- Reads the name of an anchor or of a reference to one; the cursor stands at the sign. -/
def anchorName (activity : Activity) (c : Cursor) : Except Fault (List Char × Cursor) :=
  let start := c.mark
  let (name, c) := (c.drop 1).span isWord
  let ends := c.gapAt 0 || c.sees fun x => x ∈ ['?', ':', ',', ']', '\x7d', '%', '@', '\x60']
  if name = [] || !ends then c.fail activity start .badAnchor else .ok (name, c)

/-! ### Tags -/

/-- What a part of a tag belongs to. -/
structure TagContext where
  /-- Whether it is part of a directive. -/
  inDirective : Bool
  /-- Where that starts. -/
  start : Mark

/-- What is being read of a tag or directive when its text is. -/
def TagContext.activity (t : TagContext) : Activity :=
  if t.inDirective then .textOfDirective else .tagText

/-- How many octets a character takes whose first octet is given; 0 if it is none. -/
def octetCount (octet : Nat) : Nat :=
  if octet < 0x80 then 1
  else if octet < 0xC0 then 0
  else if octet < 0xE0 then 2
  else if octet < 0xF0 then 3
  else if octet < 0xF8 then 4
  else 0

/-- Reads an octet that is written as a percent sign and two digits. -/
def octet (t : TagContext) (c : Cursor) : Except Fault Nat :=
  match c.rest with
  | '%' :: a :: b :: _ =>
    if isHex a && isHex b then .ok (hexValue a * 16 + hexValue b)
    else c.fail t.activity t.start .badOctet
  | _ => c.fail t.activity t.start .badOctet

/-- Reads the further octets of a character. -/
def furtherOctets (t : TagContext) : Nat → Cursor → Except Fault (List Char × Cursor)
  | 0, c => .ok ([], c)
  | n + 1, c => do
    let o ← octet t c
    if o < 0x80 || 0xC0 ≤ o then c.fail t.activity t.start .badFurtherOctet
    else
      let (more, c) ← furtherOctets t n (c.drop 3)
      return (Char.ofNat o :: more, c)

/-- Reads the octets of a character. -/
def octets (t : TagContext) (c : Cursor) : Except Fault (List Char × Cursor) := do
  let o ← octet t c
  match octetCount o with
  | 0 => c.fail t.activity t.start .badFirstOctet
  | n + 1 =>
    let (more, c) ← furtherOctets t n (c.drop 3)
    return (Char.ofNat o :: more, c)

/-- A character that may stand in the text of a tag; commas and brackets only where they cannot be
taken for signs. -/
def isTagChar (full : Bool) (c : Char) : Bool :=
  isWord c || c ∈ [';', '/', '?', ':', '@', '&', '=', '+', '$', '.', '!', '~', '*', '\'',
    '(', ')', '%']
    || (full && c ∈ [',', '[', ']'])

/-- Reads the text of a tag as far as it goes. -/
def tagChars (t : TagContext) (full : Bool) :
    Nat → Cursor → List Char → Except Fault (List Char × Cursor)
  | 0, c, acc => .ok (acc, c)
  | fuel + 1, c, acc =>
    match c.rest with
    | [] => .ok (acc, c)
    | x :: _ =>
      if !isTagChar full x then .ok (acc, c)
      else if x == '%' then do
        let (os, c) ← octets t c
        tagChars t full fuel c (acc ++ os)
      else tagChars t full fuel (c.drop 1) (acc ++ [x])

/-- Reads the text of a tag, which may not be empty unless something stands before it. -/
def tagText (t : TagContext) (full : Bool) (before : List Char) (c : Cursor) :
    Except Fault (List Char × Cursor) := do
  let (text, next) ← tagChars t full (c.size + 1) c []
  if text = [] && before = [] then next.fail t.activity t.start .missingTagText
  else return ((before.drop 1 ++ text).takeWhile (· != '\x00'), next)

/-- Reads the handle of a tag: an exclamation mark, and a name and another mark perhaps. Without the
second mark it is no handle but the start of the text, unless it belongs to a directive. -/
def tagHandle (t : TagContext) (c : Cursor) : Except Fault (List Char × Cursor) :=
  if !c.starts '!' then
    c.fail (if t.inDirective then .handleOfDirective else .tag) t.start .missingTagMark
  else
    let (name, c) := (c.drop 1).span isWord
    if c.starts '!' then .ok ('!' :: name ++ ['!'], c.drop 1)
    else if t.inDirective && name != [] then
      c.fail .handleEndOfDirective t.start .missingTagMark
    else .ok ('!' :: name, c)

/-- Whether a handle has both its marks. -/
def isWholeHandle (handle : List Char) : Bool :=
  2 ≤ handle.length && handle.getLast? == some '!'

/-- Reads a tag: its handle, empty if the text is the whole tag, and the text. -/
def tag (inFlow : Bool) (c : Cursor) : Except Fault (List Char × List Char × Cursor) := do
  let start := c.mark
  let t : TagContext := ⟨false, start⟩
  let (handle, text, c) ←
    if c.isAt 1 '<' then do
      let (text, c) ← tagText t true [] (c.drop 2)
      if !c.starts '>' then c.fail .tag start .missingTagClose
      else pure ([], text, c.drop 1)
    else do
      let (handle, c) ← tagHandle t c
      if isWholeHandle handle then
        let (text, c) ← tagText t false [] c
        pure (handle, text, c)
      else
        let (text, c) ← tagText t false handle c
        pure (if text = [] then ([], ['!'], c) else (['!'], text, c))
  if c.gapAt 0 || (inFlow && c.starts ',') then return (handle, text, c)
  else c.fail .tag start .missingGap

/-! ### Directives -/

/-- Reads a number of a version. -/
def versionNumber (start : Mark) (c : Cursor) : Except Fault (Nat × Cursor) :=
  let ds := c.rest.takeWhile Char.isDigit
  if 9 < ds.length then (c.drop 9).fail .versionDirective start .longVersion
  else if ds = [] then c.fail .versionDirective start .missingVersion
  else .ok (ds.foldl (fun n d => n * 10 + (d.toNat - 48)) 0, c.drop ds.length)

/-- Reads a version. -/
def version (start : Mark) (c : Cursor) : Except Fault (TokenKind × Cursor) := do
  let (major, c) ← versionNumber start (c.skip isBlank)
  if !c.starts '.' then c.fail .versionDirective start .missingVersionPoint
  else
    let (minor, c) ← versionNumber start (c.drop 1)
    return (.version major minor, c)

/-- Reads a handle for tags and the text that it stands for. -/
def handleDirective (start : Mark) (c : Cursor) : Except Fault (TokenKind × Cursor) := do
  let t : TagContext := ⟨true, start⟩
  let (handle, c) ← tagHandle t (c.skip isBlank)
  if !c.sees isBlank then c.fail .tagDirective start .missingBlank
  else
    let (text, c) ← tagText t true [] (c.skip isBlank)
    if !c.gapAt 0 then c.fail .tagDirective start .missingGap
    else return (.handle handle text, c)

/-- Reads a directive and the rest of its line: the token, and where it ends. -/
def directive (c : Cursor) : Except Fault (TokenKind × Mark × Cursor) := do
  let start := c.mark
  let (name, c) := (c.drop 1).span isWord
  if name = [] then c.fail .directive start .missingDirectiveName
  else if !c.gapAt 0 then c.fail .directive start .badDirectiveName
  else
    let (kind, c) ←
      if name = ['Y', 'A', 'M', 'L'] then version start c
      else if name = ['T', 'A', 'G'] then handleDirective start c
      else c.fail .directive start .unknownDirective
    let stop := c.mark
    let c := (c.skip isBlank).skipComment
    if !c.atLineEnd then c.fail .directive start .missingLineEnd
    else return (kind, stop, c.skipBreak)

end PlotDeck.Yaml

/-!
# Positions in a text

Places in a text are counted in three ways: by **byte** offset in its UTF-8 form, by 1-based line
and byte column, and by character. The functions here go from one count to another; all of them
clamp to the text and round down to the start of a character, so their results can always be used
to cut it.
-/

namespace PlotDeck.Text

/-- The length of a text in bytes. -/
def byteSize : List Char → Nat
  | [] => 0
  | c :: r => c.utf8Size + byteSize r

@[simp] theorem byteSize_nil : byteSize [] = 0 := rfl

@[simp] theorem byteSize_cons (c : Char) (r : List Char) :
    byteSize (c :: r) = c.utf8Size + byteSize r := rfl

@[simp] theorem byteSize_append (s t : List Char) :
    byteSize (s ++ t) = byteSize s + byteSize t := by
  induction s with
  | nil => simp
  | cons c r ih => simp [ih, Nat.add_assoc]

/-- The characters that end at or before byte `n`. -/
def takeBytes : List Char → Nat → List Char
  | [], _ => []
  | c :: r, n => if c.utf8Size ≤ n then c :: takeBytes r (n - c.utf8Size) else []

/-- What is left of the text after `takeBytes`: it starts with the character that holds byte `n`. -/
def dropBytes : List Char → Nat → List Char
  | [], _ => []
  | c :: r, n => if c.utf8Size ≤ n then dropBytes r (n - c.utf8Size) else c :: r

theorem takeBytes_append_dropBytes (t : List Char) (n : Nat) :
    takeBytes t n ++ dropBytes t n = t := by
  induction t generalizing n with
  | nil => rfl
  | cons c r ih => by_cases h : c.utf8Size ≤ n <;> simp [takeBytes, dropBytes, h, ih]

/-- An offset is a **boundary** when a character, or the end of the text, starts there. -/
def IsBoundary (t : List Char) (n : Nat) : Prop := ∃ s r, t = s ++ r ∧ byteSize s = n

/-- The nearest boundary at or before byte `n`. -/
def floorBoundary (t : List Char) (n : Nat) : Nat := byteSize (takeBytes t n)

/-- The boundary after the character that starts at `n`; `n` itself at the end of the text. -/
def nextBoundary (t : List Char) (n : Nat) : Nat :=
  match dropBytes t n with
  | [] => n
  | c :: _ => n + c.utf8Size

/-- How many characters end at or before byte `n`. -/
def charIndex (t : List Char) (n : Nat) : Nat := (takeBytes t n).length

/-- The offset at which a 1-based line starts; the size of the text when it has fewer lines. -/
def lineStart : List Char → Nat → Nat
  | [], _ => 0
  | c :: r, line =>
    if line ≤ 1 then 0 else c.utf8Size + lineStart r (if c = '\n' then line - 1 else line)

/-- The byte that a 1-based line and byte column name, wherever that is. -/
def placeOf (t : List Char) (line column : Nat) : Nat := lineStart t line + (column - 1)

/-- How many numbers a machine word can be. -/
def wordCount : Nat := Nat.pow 2 64

/-- The boundary nearest to a 1-based line and byte column, from below and inside the text. The
place is a sum of machine words, and a sum that is no word itself goes round to a small one. -/
def offsetOf (t : List Char) (line column : Nat) : Nat :=
  floorBoundary t (placeOf t line column % wordCount)

/-- What `offsetOf` is where sums of machine words are checked: a sum that is no word ends the
program. -/
def offsetOf? (t : List Char) (line column : Nat) : Option Nat :=
  if placeOf t line column < wordCount then some (floorBoundary t (placeOf t line column)) else none

/-- The 1-based line that holds byte `n`: one more than the line feeds that end before it. -/
def lineOf (t : List Char) (n : Nat) : Nat := (takeBytes t n).count '\n' + 1

/-- The bytes between byte `n` and the last line feed before it. -/
def columnOf (t : List Char) (n : Nat) : Nat :=
  byteSize ((takeBytes t n).reverse.takeWhile (· != '\n'))

end PlotDeck.Text

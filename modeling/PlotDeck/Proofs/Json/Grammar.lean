import PlotDeck.Json.Node

/-!
# The grammar of JSON

A JSON text is a value that is **written** out, with space between its parts. A string is a sequence
of letters, each of which may be written as it is, behind a backslash, or by a code unit; only where
the surrogates among the code units are paired do the letters spell a text (`spelled`). A number may
have any digits; only where the reader takes it is it found (`Number.found?`). Nothing here parses:
a value that is written has a text (`Written.text`), and that is all that a parser is given.
-/

namespace PlotDeck.Json

/-- Space between the parts of a text. -/
structure Gap where
  /-- The characters. -/
  text : List Char
  /-- All of them are space. -/
  isSpace : ∀ c ∈ text, isSpace c = true

/-- No space. -/
def Gap.empty : Gap := ⟨[], by simp⟩

/-! ### Strings -/

/-- A hexadecimal digit. -/
structure HexDigit where
  /-- The digit. -/
  char : Char
  /-- Its value. -/
  value : Nat
  /-- The digit has this value. -/
  hasValue : hexValue? char = some value

/-- A code unit, given by four digits. -/
structure CodeUnit where
  /-- The digit of the most weight. -/
  first : HexDigit
  /-- The next digit. -/
  second : HexDigit
  /-- The next digit. -/
  third : HexDigit
  /-- The digit of the least weight. -/
  fourth : HexDigit

namespace CodeUnit

/-- The number of a code unit. -/
def value (u : CodeUnit) : Nat :=
  ((u.first.value * 16 + u.second.value) * 16 + u.third.value) * 16 + u.fourth.value

/-- The digits of a code unit. -/
def text (u : CodeUnit) : List Char := [u.first.char, u.second.char, u.third.char, u.fourth.char]

/-- The character of a pair of surrogates. -/
def pair (u v : CodeUnit) : Char :=
  Char.ofNat ((u.value - 0xD800) * 0x400 + (v.value - 0xDC00) + 0x10000)

end CodeUnit

/-- A letter of a string, as it is written. -/
inductive Letter where
  /-- A character that stands for itself. -/
  | plain (c : Char) (isPlain : c ≠ '"' ∧ c ≠ '\\' ∧ isControl c = false)
  /-- An escape of one letter, and the character it stands for. -/
  | short (letter c : Char) (isShort : shortEscape? letter = some c)
  /-- A code unit. -/
  | unit (u : CodeUnit)

/-- The text of a letter. -/
def Letter.text : Letter → List Char
  | .plain c _ => [c]
  | .short letter _ _ => ['\\', letter]
  | .unit u => '\\' :: 'u' :: u.text

/-- The text of the letters of a string. -/
def lettersText (letters : List Letter) : List Char := letters.flatMap Letter.text

/-- The characters that letters spell. Surrogates have to come in pairs. -/
def decode : List Letter → Option (List Char)
  | [] => some []
  | .plain c _ :: letters => (decode letters).map (c :: ·)
  | .short _ c _ :: letters => (decode letters).map (c :: ·)
  | .unit u :: letters =>
    if isTrailing u.value then none
    else if isLeading u.value then
      match letters with
      | .unit v :: letters =>
        if isTrailing v.value then (decode letters).map (u.pair v :: ·) else none
      | _ => none
    else (decode letters).map (Char.ofNat u.value :: ·)

/-- The text that letters spell. -/
def spelled (letters : List Letter) : Option String := (decode letters).map String.ofList

/-! ### Numbers -/

/-- One digit or more. -/
structure Digits where
  /-- The digits. -/
  text : List Char
  /-- All of them are digits. -/
  areDigits : ∀ c ∈ text, c.isDigit = true
  /-- There is one. -/
  notEmpty : text ≠ []

/-- The exponent of a number. -/
structure Exponent where
  /-- The letter before it. -/
  mark : Char
  /-- It is one of the two that mark an exponent. -/
  isMark : mark = 'e' ∨ mark = 'E'
  /-- Its sign, if it has one: whether it is a plus. -/
  sign : Option Bool
  /-- Its digits. -/
  digits : Digits

/-- The text of a sign. -/
def signText : Option Bool → List Char
  | none => []
  | some positive => [if positive then '+' else '-']

/-- The text of an exponent, where there is one. -/
def exponentText : Option Exponent → List Char
  | none => []
  | some e => e.mark :: (signText e.sign ++ e.digits.text)

/-- The text of the digits behind a point, where there are any. -/
def fractionText : Option Digits → List Char
  | none => []
  | some digits => '.' :: digits.text

/-- A number, as it is written. -/
structure Number where
  /-- Whether there is a minus. -/
  negative : Bool
  /-- The digits of the whole part. -/
  whole : Digits
  /-- There is no zero in front of other digits. -/
  noNeedlessZero : ∀ r, whole.text = '0' :: r → r = []
  /-- The digits behind the point. -/
  fraction : Option Digits
  /-- The exponent. -/
  exponent : Option Exponent

namespace Number

/-- The text of a number behind its sign. -/
def unsigned (n : Number) : List Char :=
  n.whole.text ++ (fractionText n.fraction ++ exponentText n.exponent)

/-- The text of a number. -/
def text (n : Number) : List Char := if n.negative then '-' :: n.unsigned else n.unsigned

/-- What a number is found to be, unless it is out of range. -/
def found? (n : Number) : Option Found :=
  (readNumber n.negative n.unsigned).toOption.map Prod.fst

end Number

/-! ### Values -/

/-- A value without parts, as it is written. -/
inductive Scalar where
  /-- No value. -/
  | null
  /-- A truth value. -/
  | flag (b : Bool)
  /-- A number. -/
  | number (n : Number)
  /-- A string. -/
  | string (letters : List Letter)

namespace Scalar

/-- The text of a value without parts. -/
def text : Scalar → List Char
  | null => ['n', 'u', 'l', 'l']
  | flag true => ['t', 'r', 'u', 'e']
  | flag false => ['f', 'a', 'l', 's', 'e']
  | number n => n.text
  | string letters => '"' :: (lettersText letters ++ ['"'])

/-- What a value without parts is found to be, unless it is a number out of range or letters that
spell no text. -/
def found? : Scalar → Option Found
  | null => some .null
  | flag b => some (.flag b)
  | number n => n.found?
  | string letters => (spelled letters).map .text

end Scalar

/-- The name of a member, as it is written, with the space around it. -/
structure Label where
  /-- The space before it. -/
  before : Gap
  /-- Its letters. -/
  letters : List Letter
  /-- The space behind it. -/
  after : Gap

namespace Label

/-- The text of a label with its colon. -/
def text (label : Label) : List Char :=
  label.before.text ++ '"' :: (lettersText label.letters ++ '"' :: (label.after.text ++ [':']))

/-- The name that a label spells. -/
def name? (label : Label) : Option String := spelled label.letters

end Label

/-- A value, as it is written, with the space before and behind it. -/
inductive Written where
  /-- A value without parts. -/
  | scalar (before : Gap) (value : Scalar) (after : Gap)
  /-- A list: there may be space before its closing bracket as well. -/
  | list (before : Gap) (items : List Written) (inner after : Gap)
  /-- A record: there may be space before its closing brace as well. -/
  | record (before : Gap) (members : List (Label × Written)) (inner after : Gap)

mutual
/-- The text of a value. -/
def Written.text : Written → List Char
  | .scalar before value after => before.text ++ (value.text ++ after.text)
  | .list before [] inner after => before.text ++ '[' :: (inner.text ++ ']' :: after.text)
  | .list before (w :: ws) inner after =>
    before.text ++ '[' :: (w.text ++ (itemsText ws ++ (inner.text ++ ']' :: after.text)))
  | .record before [] inner after => before.text ++ '\x7b' :: (inner.text ++ '\x7d' :: after.text)
  | .record before ((label, w) :: ms) inner after =>
    before.text ++ '\x7b' ::
      (label.text ++ (w.text ++ (membersText ms ++ (inner.text ++ '\x7d' :: after.text))))

/-- The text of the items after the first. -/
def itemsText : List Written → List Char
  | [] => []
  | w :: ws => ',' :: (w.text ++ itemsText ws)

/-- The text of the members after the first. -/
def membersText : List (Label × Written) → List Char
  | [] => []
  | (label, w) :: ms => ',' :: (label.text ++ (w.text ++ membersText ms))
end

/-! ### Reading and passing over -/

theorem toOption_eq_some_iff {ε α : Type} {x : Except ε α} {a : α} :
    x.toOption = some a ↔ x = .ok a := by
  cases x <;> simp [Except.toOption]

theorem toOption_map {ε α β : Type} (f : α → β) (x : Except ε α) :
    (x.map f).toOption = x.toOption.map f := by
  cases x <;> rfl

/-- What can be passed over is found to be what it is read as. -/
theorem scalarNode_ok (read : Except Fault (Found × List Char)) (after : List Char) :
    scalarNode read (.ok after) = .scalar (read.map Prod.fst) after := by
  cases read <;> rfl

end PlotDeck.Json

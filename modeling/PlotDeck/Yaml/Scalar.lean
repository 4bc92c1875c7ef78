import PlotDeck.Deck.Mismatch
import PlotDeck.Yaml.Token

/-!
# YAML scalars

A scalar is a text; what value it stands for is told by its tag, or by its form if it is plain.
Whole numbers may have up to 128 bits; what is larger is a floating-point number if it is finite.
-/

namespace PlotDeck.Yaml

open Decimal (Binary64)

/-- A scalar as it is written. -/
structure Scalar where
  /-- Its text. -/
  text : List Char
  /-- How it is written. -/
  style : Style
  /-- Its tag, as octets. -/
  tag : Option (List Char)
deriving DecidableEq, Repr

/-- The tags that the notation itself knows. -/
def coreTag (name : String) : List Char := "tag:yaml.org,2002:".toList ++ name.toList

/-- Whether a tag is of the text's own making. The mark alone is such a tag. -/
def isLocalTag (tag : List Char) : Bool := tag.head? == some '!'

/-- Whether the octets of a tag are those of a text. -/
def isTextTag (tag : List Char) : Bool :=
  (ByteArray.mk (tag.map fun o => UInt8.ofNat o.toNat).toArray).validateUTF8

/-! ### Forms -/

/-- Whether a text stands for no value. -/
def isNull (t : List Char) : Bool :=
  t ∈ ["null".toList, "Null".toList, "NULL".toList, "~".toList]

/-- The truth value that a text stands for. -/
def flagOf? (t : List Char) : Option Bool :=
  if t ∈ ["true".toList, "True".toList, "TRUE".toList] then some true
  else if t ∈ ["false".toList, "False".toList, "FALSE".toList] then some false
  else none

/-- Drops a plus sign. -/
def dropPlus : List Char → List Char
  | '+' :: r => r
  | t => t

/-- Whether a text is digits behind a zero, perhaps with a sign: no number. -/
def hasLeadingZero (t : List Char) : Bool :=
  let t := match t with
    | '+' :: r | '-' :: r => r
    | _ => t
  match t with
  | '0' :: r => r != [] && r.all Char.isDigit
  | _ => false

/-- The number that digits of a base write. -/
def digitsOf? (base : Nat) (t : List Char) : Option Nat :=
  if t = [] then none
  else t.foldl (fun n c => do
    let n ← n
    if isHex c && hexValue c < base then some (n * base + hexValue c) else none) (some 0)

/-- The magnitude that a text without a sign writes, with the mark of a base or without. -/
def magnitude? (t : List Char) : Option Nat :=
  match t with
  | '0' :: 'x' :: r => digitsOf? 16 r
  | '0' :: 'o' :: r => digitsOf? 8 r
  | '0' :: 'b' :: r => digitsOf? 2 r
  | _ => if hasLeadingZero t then none else digitsOf? 10 t

/-- The whole number that a text stands for. -/
def integerOf? (t : List Char) : Option Int :=
  match t with
  | '-' :: r => (magnitude? r).map fun n => -(n : Int)
  | _ => (magnitude? (dropPlus t)).map fun n => (n : Int)

/-- A whole number by how wide it is: up to 64 bits, up to 128 bits, or none. -/
def foundInteger? (n : Int) : Option Found :=
  if -Nat.pow 2 63 ≤ n ∧ n < Nat.pow 2 64 then some (.integer n)
  else if -Nat.pow 2 127 ≤ n ∧ n < Nat.pow 2 128 then some (.wideInteger n)
  else none

/-- The exponent that a text starts with, if it is nothing else. -/
def exponentOf? : List Char → Option Int
  | [] => some 0
  | c :: r =>
    if c == 'e' || c == 'E' then
      match r with
      | '-' :: ds => (digitsOf? 10 ds).map fun n => -(n : Int)
      | _ => (digitsOf? 10 (dropPlus r)).map fun n => (n : Int)
    else none

/-- The finite number that a text writes in decimal notation. -/
def decimalOf? (t : List Char) : Option Binary64 :=
  let (negative, t) := match t with
    | '-' :: r => (true, r)
    | _ => (false, dropPlus t)
  let whole := t.takeWhile Char.isDigit
  let rest := t.dropWhile Char.isDigit
  let (part, rest) := match rest with
    | '.' :: r => (r.takeWhile Char.isDigit, r.dropWhile Char.isDigit)
    | _ => ([], rest)
  match digitsOf? 10 (whole ++ part), exponentOf? rest with
  | some n, some exponent =>
    let x := Binary64.ofDecimal negative n (exponent - part.length)
    if x.isInfinite then none else some x
  | _, _ => none

/-- The floating-point number that a text stands for. -/
def floatOf? (t : List Char) : Option Binary64 :=
  match t with
  | '+' :: '+' :: _ | '+' :: '-' :: _ => none
  | _ =>
    let infinity := [".inf".toList, ".Inf".toList, ".INF".toList]
    if dropPlus t ∈ infinity then some (.infinite false)
    else if t.head? = some '-' ∧ t.drop 1 ∈ infinity then some (.infinite true)
    else if t ∈ [".nan".toList, ".NaN".toList, ".NAN".toList] then some .nan
    else decimalOf? (dropPlus t)

/-- What a plain scalar without a tag stands for. -/
def foundPlain (t : List Char) : Found :=
  if t = [] || isNull t then .null
  else
    match flagOf? t with
    | some b => .flag b
    | none =>
      match (integerOf? t).bind foundInteger? with
      | some found => found
      | none =>
        match if hasLeadingZero t then none else floatOf? t with
        | some x => .float x
        | none => .text (String.ofList t)

namespace Scalar

/-- The text of a scalar. -/
def string (s : Scalar) : String := String.ofList s.text

/-- What a scalar stands for. A tag of the notation has to fit the text. -/
def found (s : Scalar) : Except Mismatch Found :=
  let untagged : Found := if s.style = .plain then foundPlain s.text else .text s.string
  let claimed (found : Option Found) (expected : String) : Except Mismatch Found :=
    match found with
    | some found => .ok found
    | none => .error (.wrongValue (.text s.string) expected)
  match s.tag with
  | none => .ok untagged
  | some tag =>
    if tag = coreTag "bool" then claimed ((flagOf? s.text).map .flag) "a boolean"
    else if tag = coreTag "int" then
      claimed ((integerOf? s.text).bind foundInteger?) "an integer"
    else if tag = coreTag "float" then claimed ((floatOf? s.text).map .float) "a float"
    else if tag = coreTag "null" then claimed (if isNull s.text then some .null else none) "null"
    else if isLocalTag tag then .ok untagged
    else .ok (.text s.string)

/-- Whether a scalar is plain and has no text. -/
def isEmpty (s : Scalar) : Bool := s.text = [] && s.style = .plain

end Scalar

end PlotDeck.Yaml

import PlotDeck.Json.Fault

/-!
# JSON numbers

A number has an optional sign, digits without a needless zero in front, and perhaps a fraction and
an exponent. Like a string it can be **read** or **passed over**. A whole number that fits 64 bits
is read exactly; any other is a binary64 number, made from the leading digits that fit 64 bits and a
power of ten, and refused when it is too large.
-/

namespace PlotDeck.Json

open Decimal (Binary64)

/-- The largest whole number that is read exactly. -/
def maxUnsigned : Nat := Nat.pow 2 64 - 1

/-- The largest exponent that is read exactly. -/
def maxExponent : Nat := Nat.pow 2 31 - 1

/-- Whether a text starts with a digit. -/
def startsDigit (t : List Char) : Bool := (t.head?.map Char.isDigit).getD false

/-- Whether a text starts with the mark of an exponent. -/
def startsExponent (t : List Char) : Bool := t.head? == some 'e' || t.head? == some 'E'

/-- Appends leading digits to a number as long as it stays within 64 bits: the number, how many
digits were taken, and what is left. -/
def takeDigits : Nat → List Char → Nat × Nat × List Char
  | n, [] => (n, 0, [])
  | n, c :: r =>
    if c.isDigit && n * 10 + (c.toNat - '0'.toNat) ≤ maxUnsigned then
      let (n, count, r) := takeDigits (n * 10 + (c.toNat - '0'.toNat)) r
      (n, count + 1, r)
    else (n, 0, c :: r)

/-- The rounded value of `n * 10 ^ exponent`, in steps of powers of ten that are in range. -/
def scale : Nat → Binary64 → Int → Option Binary64
  | 0, x, _ => some x
  | fuel + 1, x, exponent =>
    let power (k : Nat) := Binary64.ofDecimal false 1 k
    if exponent.natAbs ≤ 308 then
      if 0 ≤ exponent then
        let y := x.mul (power exponent.natAbs)
        if y.isInfinite then none else some y
      else some (x.div (power exponent.natAbs))
    else if x.isZero then some x
    else if 0 ≤ exponent then none
    else scale fuel (x.div (power 308)) (exponent + 308)

/-- The number with these digits and exponent; `rest` is what is left after it. -/
def floatOf (negative : Bool) (n : Nat) (exponent : Int) (rest : List Char) :
    Except Fault (Found × List Char) :=
  match scale 4 (Binary64.ofNat n) exponent with
  | some x => .ok (.float (if negative then x.neg else x), rest)
  | none => .error (.here .numberOutOfRange rest)

/-- Drops the sign of an exponent: whether it is positive, and what is left. -/
def exponentSign : List Char → Bool × List Char
  | '+' :: r => (true, r)
  | '-' :: r => (false, r)
  | r => (true, r)

/-- Reads the digits of an exponent, given the value so far. An exponent that is too large ends the
number at once, unless the number is zero or tiny. -/
def readExponentDigits (negative : Bool) (n : Nat) (base : Int) (positive : Bool) :
    Nat → List Char → Except Fault (Found × List Char)
  | e, [] => floatOf negative n (if positive then base + e else base - e) []
  | e, c :: r =>
    if c.isDigit then
      let e' := e * 10 + (c.toNat - '0'.toNat)
      if maxExponent < e' then
        if n ≠ 0 ∧ positive then .error (.inByte .numberOutOfRange (c :: r))
        else .ok (.float (.finite negative 0 (-1074)), r.dropWhile Char.isDigit)
      else readExponentDigits negative n base positive e' r
    else floatOf negative n (if positive then base + e else base - e) (c :: r)

/-- Reads an exponent, of which the mark has been read. -/
def readExponent (negative : Bool) (n : Nat) (base : Int) (t : List Char) :
    Except Fault (Found × List Char) :=
  match exponentSign t with
  | (_, []) => .error (.here .endInValue [])
  | (positive, c :: r) =>
    if c.isDigit then readExponentDigits negative n base positive 0 (c :: r)
    else .error (.inByte .invalidNumber (c :: r))

/-- Ends a number after its digits: with an exponent or without. -/
def readMantissaEnd (negative : Bool) (n : Nat) (base : Int) (t : List Char) :
    Except Fault (Found × List Char) :=
  if startsExponent t then readExponent negative n base (t.drop 1) else floatOf negative n base t

/-- Reads a fraction, of which the point has been read. Digits beyond 64 bits are passed over. -/
def readFraction (negative : Bool) (n : Nat) (base : Int) (t : List Char) :
    Except Fault (Found × List Char) :=
  match t with
  | [] => .error (.here .endInValue [])
  | c :: _ =>
    if c.isDigit then
      let (n, count, r) := takeDigits n t
      readMantissaEnd negative n (base - count) (r.dropWhile Char.isDigit)
    else .error (.inByte .invalidNumber t)

/-- Ends a whole number of which all digits fit 64 bits. -/
def readWholeEnd (negative : Bool) (n : Nat) (t : List Char) : Except Fault (Found × List Char) :=
  match t with
  | '.' :: r => readFraction negative n 0 r
  | _ =>
    if startsExponent t then readExponent negative n 0 (t.drop 1)
    else if !negative then .ok (.integer n, t)
    else if n = 0 ∨ Nat.pow 2 63 < n then .ok (.float (Binary64.ofNat n).neg, t)
    else .ok (.integer (-n), t)

/-- Reads a number, of which the sign has been read. -/
def readNumber (negative : Bool) : List Char → Except Fault (Found × List Char)
  | [] => .error (.here .endInValue [])
  | '0' :: r =>
    if startsDigit r then .error (.inByte .invalidNumber r) else readWholeEnd negative 0 r
  | c :: r =>
    if c.isDigit then
      let (n, _, rest) := takeDigits 0 (c :: r)
      if startsDigit rest then
        let further := rest.takeWhile Char.isDigit
        match rest.dropWhile Char.isDigit with
        | '.' :: r => readFraction negative n further.length r
        | r => readMantissaEnd negative n further.length r
      else readWholeEnd negative n rest
    else .error (.inByte .invalidNumber (c :: r))

/-- Passes over an exponent, of which the mark has been read. -/
def passExponent (t : List Char) : Except Fault (List Char) :=
  match (exponentSign t).2 with
  | c :: r =>
    if c.isDigit then .ok (r.dropWhile Char.isDigit) else .error (.inByte .invalidNumber (c :: r))
  | [] => .error (.here .invalidNumber [])

/-- Passes over a fraction, of which the point has been read. -/
def passFraction (t : List Char) : Except Fault (List Char) :=
  if startsDigit t then
    let r := t.dropWhile Char.isDigit
    if startsExponent r then passExponent (r.drop 1) else .ok r
  else .error (.inByte .invalidNumber t)

/-- Passes over what follows the digits of a whole number. -/
def passWholeEnd (t : List Char) : Except Fault (List Char) :=
  match t with
  | '.' :: r => passFraction r
  | _ => if startsExponent t then passExponent (t.drop 1) else .ok t

/-- Passes over a number, of which the sign has been passed over. -/
def passNumber : List Char → Except Fault (List Char)
  | [] => .error (.here .invalidNumber [])
  | '0' :: r => if startsDigit r then .error (.inByte .invalidNumber r) else passWholeEnd r
  | c :: r =>
    if c.isDigit then passWholeEnd (r.dropWhile Char.isDigit)
    else .error (.inByte .invalidNumber (c :: r))

end PlotDeck.Json

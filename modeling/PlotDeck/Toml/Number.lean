import PlotDeck.Decimal.Binary64
import PlotDeck.Toml.String

/-!
# TOML numbers

Whole numbers in base ten, sixteen, eight and two, and floating-point numbers. Digits may be set off
by underscores, each of which has a digit on either side. A whole number has to fit 64 bits with a
sign; a floating-point number may be too small, or too large below zero, but not too large above.
-/

namespace PlotDeck.Toml

open PlotDeck.Toml.Parser
open Decimal (Binary64)

/-- The greatest whole number. -/
def maxInteger : Int := Nat.pow 2 63 - 1

/-- The least whole number. -/
def minInteger : Int := -Nat.pow 2 63

/-- Digits of a base after the first, perhaps set off by underscores. -/
def moreDigits (base : Nat) : Parser (List Char) := do
  many
    ((one (isDigitOf base)).orElse do
      let _ ← char '_'
      (one (isDigitOf base)).commit.expect "digit")
    (← size)

/-- Digits of a base, perhaps set off by underscores. -/
def digits (base : Nat) : Parser (List Char) := do
  let first ← one (isDigitOf base)
  return first :: (← moreDigits base)

/-- A sign: whether it is a minus. -/
def sign : Parser Bool := do return (← (one fun c => c == '+' || c == '-').optional) == some '-'

/-- Digits in base ten with a sign: whether it is a minus, and the digits. A zero in front of other
digits stands alone. -/
def signedDigits : Parser (Bool × List Char) :=
  label "integer" do
    let negative ← sign
    let ds ← Parser.orElse
      (do let first ← one fun c => c.isDigit && c != '0'; return first :: (← moreDigits 10))
      (do return [← one Char.isDigit])
    return (negative, ds)

/-- A whole number that fits. -/
def inRange (n : Int) : Except Cause Int :=
  if maxInteger < n then .error .tooLarge else if n < minInteger then .error .tooSmall else .ok n

/-- A whole number in a base other than ten, behind the mark of the base. -/
def basedInteger (mark : List Char) (base : Nat) (what : String) : Parser Int :=
  Parser.commit <| Parser.check
    (p := label what do let _ ← word mark; (digits base).commit) fun ds =>
    inRange (valueOf base ds)

/-- A whole number. -/
def integer : Parser Int := fun t =>
  match t with
  | '0' :: 'x' :: _ => basedInteger ['0', 'x'] 16 "hexadecimal integer" t
  | '0' :: 'o' :: _ => basedInteger ['0', 'o'] 8 "octal integer" t
  | '0' :: 'b' :: _ => basedInteger ['0', 'b'] 2 "binary integer" t
  | _ =>
    match signedDigits t with
    | .ok (negative, ds) r =>
      match inRange (if negative then -(valueOf 10 ds : Int) else valueOf 10 ds) with
      | .ok n => .ok n r
      | .error cause => .refused { cause := some cause, rest := t }
    | .declined f => .declined f
    | .refused f => .refused f

/-- A power of ten behind a mantissa. -/
def power : Parser Int := do
  let _ ← one fun c => c == 'e' || c == 'E'
  let negative ← sign
  let ds ← (digits 10).commit
  return if negative then -(valueOf 10 ds : Int) else valueOf 10 ds

/-- Digits behind a point. -/
def fraction : Parser (List Char) := do
  let _ ← char '.'
  (digits 10).commit.expect "digit"

/-- Digits with a fraction, a power of ten or both. -/
def decimalFloat : Parser Binary64 := do
  let (negative, whole) ← signedDigits
  let (part, exponent) ← Parser.orElse
    (do return ([], ← power))
    (do let part ← fraction; return (part, (← power.optional).getD 0))
  return .ofDecimal negative (valueOf 10 (whole ++ part)) (exponent - part.length)

/-- The infinity and what is not a number. -/
def specialFloat : Parser Binary64 :=
  Parser.orElse
    (do let _ ← word ['i', 'n', 'f']; return .infinite false)
    (do let _ ← word ['n', 'a', 'n']; return .nan)

/-- A floating-point number. -/
def float : Parser Binary64 :=
  label "floating-point number" <|
    Parser.orElse
      (fun t =>
        match decimalFloat t with
        | .ok (.infinite false) _ => .refused { rest := t }
        | o => o)
      (do
        let negative ← sign
        let x ← specialFloat
        return if negative then x.neg else x)

end PlotDeck.Toml

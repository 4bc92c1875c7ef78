/-!
# Binary floating point, exactly

A **binary64** number is a sign, a mantissa below 2^53 and a power of two not below 2^-1074, or an
infinity, or not a number. Values are kept as natural numbers, so every rounding here is exact
arithmetic: a quotient goes to the nearest value, and a tie to the one with an even mantissa.
-/

namespace PlotDeck.Decimal

/-- A binary64 number; a finite one has the magnitude `mantissa * 2 ^ exponent`. -/
inductive Binary64 where
  /-- A finite number. -/
  | finite (negative : Bool) (mantissa : Nat) (exponent : Int)
  /-- An infinity. -/
  | infinite (negative : Bool)
  /-- Not a number. -/
  | nan
deriving DecidableEq, Repr

/-- A quotient rounded to the nearest integer, a tie to the even one. -/
def roundDiv (num den : Nat) : Nat :=
  let q := num / den
  let r := num % den
  if 2 * r > den || (2 * r == den && q % 2 == 1) then q + 1 else q

namespace Binary64

/-- The quotient `num / den` in units of `2 ^ e`, as a numerator and a denominator. -/
def inUnits (num den : Nat) (e : Int) : Nat × Nat :=
  if 0 ≤ e then (num, den * Nat.pow 2 e.toNat) else (num * Nat.pow 2 (-e).toNat, den)

/-- The least exponent at which `num / den` has a mantissa below 2^53; at least -1074. -/
def exponentFor (num den : Nat) : Int :=
  let e : Int := (Nat.log2 num : Int) - Nat.log2 den - 53
  let e := if (inUnits num den e).1 / (inUnits num den e).2 < Nat.pow 2 53 then e else e + 1
  max e (-1074)

/-- The binary64 number nearest to `num / den`. -/
def ofRatio (negative : Bool) (num den : Nat) : Binary64 :=
  if num = 0 then .finite negative 0 (-1074)
  else
    let e := exponentFor num den
    let (n, d) := inUnits num den e
    let m := roundDiv n d
    let (m, e) := if m = Nat.pow 2 53 then (Nat.pow 2 52, e + 1) else (m, e)
    if 971 < e then .infinite negative else .finite negative m e

/-- The binary64 number nearest to a natural number. -/
def ofNat (n : Nat) : Binary64 := ofRatio false n 1

/-- The binary64 number nearest to `digits * 10 ^ exponent`. Exponents far outside the range are not
computed with. -/
def ofDecimal (negative : Bool) (digits : Nat) (exponent : Int) : Binary64 :=
  if digits = 0 then .finite negative 0 (-1074)
  else if 400 < exponent then .infinite negative
  else if 0 ≤ exponent then ofRatio negative (digits * Nat.pow 10 exponent.toNat) 1
  else if exponent + (Nat.log2 digits : Int) < -1200 then .finite negative 0 (-1074)
  else ofRatio negative digits (Nat.pow 10 (-exponent).toNat)

/-- Whether a number is infinite. -/
def isInfinite : Binary64 → Bool
  | infinite _ => true
  | _ => false

/-- Whether a number is zero. -/
def isZero : Binary64 → Bool
  | finite _ m _ => m == 0
  | _ => false

/-- The number with the other sign. -/
def neg : Binary64 → Binary64
  | finite s m e => finite (!s) m e
  | infinite s => infinite (!s)
  | nan => nan

/-- A magnitude as a numerator and a denominator. -/
def ratio (m : Nat) (e : Int) : Nat × Nat :=
  if 0 ≤ e then (m * Nat.pow 2 e.toNat, 1) else (m, Nat.pow 2 (-e).toNat)

/-- The rounded product of two finite numbers; of other numbers it is not a number. -/
def mul : Binary64 → Binary64 → Binary64
  | finite s m e, finite s' m' e' =>
    let (n, d) := ratio (m * m') (e + e')
    ofRatio (s != s') n d
  | _, _ => nan

/-- The rounded quotient of two finite numbers; of other numbers it is not a number. -/
def div : Binary64 → Binary64 → Binary64
  | finite s m e, finite s' m' e' =>
    if m' = 0 then nan
    else
      let (n, d) := ratio m (e - e')
      ofRatio (s != s') n (d * m')
  | _, _ => nan

end Binary64

end PlotDeck.Decimal

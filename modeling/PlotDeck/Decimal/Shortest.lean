import PlotDeck.Decimal.Binary64

/-!
# Shortest decimal text

A binary64 number is written with the fewest digits that read back as it, and of those with the
digits nearest to it. `shortest` finds the digits: for one digit, two digits and so on it tries the
two neighbours of the value on that decimal grid. Where both read back and are equally near, a `Tie`
decides. A `FloatStyle` says how digits become text.
-/

namespace PlotDeck.Decimal

/-- Digits and a position: `digits * 10 ^ exponent`. -/
structure Digits where
  /-- The digits as one number. -/
  digits : Nat
  /-- The power of ten of the last digit. -/
  exponent : Int
deriving DecidableEq, Repr

/-- A multiple of a power of ten as a numerator and a denominator. -/
def Digits.ratio (d : Digits) : Nat × Nat :=
  if 0 ≤ d.exponent then (d.digits * Nat.pow 10 d.exponent.toNat, 1)
  else (d.digits, Nat.pow 10 (-d.exponent).toNat)

/-- Whether `a/b ≤ c/d`, or `<` if not `closed`. -/
def within (closed : Bool) (a b c d : Nat) : Bool :=
  if closed then a * d ≤ c * b else a * d < c * b

/-- The interval of reals that round to `m * 2 ^ e`, in quarters of `2 ^ e`. Below a power of two
the next value is half as far. -/
def interval (m : Nat) (e : Int) : Nat × Nat :=
  (if m = Nat.pow 2 52 ∧ -1074 < e then 4 * m - 1 else 4 * m - 2, 4 * m + 2)

/-- Whether a decimal reads back as `m * 2 ^ e`. -/
def readsBack (m : Nat) (e : Int) (d : Digits) : Bool :=
  let (n, den) := d.ratio
  let (low, high) := interval m e
  let (ln, ld) := Binary64.ratio low (e - 2)
  let (hn, hd) := Binary64.ratio high (e - 2)
  let closed := m % 2 == 0
  within closed ln ld n den && within closed n den hn hd

/-- The least power of ten above `num / den`, searched upwards from a bound. -/
def magnitude (num den : Nat) : Nat → Int → Int
  | 0, p => p
  | fuel + 1, p =>
    let (n, d) := (Digits.mk 1 p).ratio
    if num * d < n * den then p else magnitude num den fuel (p + 1)

/-- Which of two neighbours on a grid is taken for a value halfway between them. -/
inductive Tie where
  /-- The one with an even last digit. -/
  | toEven
  /-- The larger one. -/
  | up
deriving DecidableEq, Repr

/-- Whether the lower neighbour `n / d` is taken for `n / d`, rather than the next whole number. -/
def Tie.takesBelow (tie : Tie) (n d : Nat) : Bool :=
  2 * (n % d) < d || (2 * (n % d) == d && tie == .toEven && (n / d) % 2 == 0)

/-- The first grid with a neighbour of the value that reads back; `count` digits have been tried. -/
def searchGrid (tie : Tie) (m : Nat) (e : Int) (p : Int) : Nat → Nat → Digits
  | 0, _ => ⟨0, 0⟩
  | fuel + 1, count =>
    let unit : Int := p - count - 1
    let (num, den) := Binary64.ratio m e
    let (n, d) := if 0 ≤ unit then (num, den * Nat.pow 10 unit.toNat)
      else (num * Nat.pow 10 (-unit).toNat, den)
    let below : Digits := ⟨n / d, unit⟩
    let above : Digits := ⟨n / d + 1, unit⟩
    match readsBack m e below, readsBack m e above with
    | true, true => if tie.takesBelow n d then below else above
    | true, false => below
    | false, true => above
    | false, false => searchGrid tie m e p fuel (count + 1)

/-- Drops zeros at the end of digits. -/
def Digits.normalize : Nat → Digits → Digits
  | 0, d => d
  | fuel + 1, d =>
    if d.digits ≠ 0 ∧ d.digits % 10 = 0 then normalize fuel ⟨d.digits / 10, d.exponent + 1⟩ else d

/-- The shortest digits of the magnitude `m * 2 ^ e`. -/
def shortest (tie : Tie) (m : Nat) (e : Int) : Digits :=
  if m = 0 then ⟨0, 0⟩
  else
    let (num, den) := Binary64.ratio m e
    let estimate : Int := ((Nat.log2 num : Int) - Nat.log2 den - 1) * 30102 / 100000 - 1
    (searchGrid tie m e (magnitude num den 5 estimate) 17 0).normalize 20

/-- How a number becomes text. -/
structure FloatStyle where
  /-- The least power of ten of a leading digit that is written without an exponent. -/
  leastPlain : Int
  /-- The greatest such power of ten. -/
  mostPlain : Int
  /-- How a tie between digits is decided. -/
  tie : Tie
deriving DecidableEq, Repr

namespace FloatStyle

/-- Digits around a point that stands after the first `point` digits; at least one digit stands on
each side of it. -/
def plain (ds : List Char) (point : Int) : List Char :=
  if point ≤ 0 then '0' :: '.' :: List.replicate (-point).toNat '0' ++ ds
  else
    let k := point.toNat
    if ds.length ≤ k then ds ++ List.replicate (k - ds.length) '0' ++ ['.', '0']
    else ds.take k ++ '.' :: ds.drop k

/-- Digits with one digit before the point and a signed exponent. -/
def scientific (ds : List Char) (exponent : Int) : List Char :=
  let point := match ds with
    | d :: r => if r = [] then [d] else d :: '.' :: r
    | [] => []
  point ++ 'e' :: (if exponent < 0 then '-' else '+') :: Nat.toDigits 10 exponent.natAbs

/-- The text of a number. -/
def render (style : FloatStyle) : Binary64 → String
  | .nan => "NaN"
  | .infinite negative => if negative then "-inf" else "inf"
  | .finite negative m e =>
    let d := shortest style.tie m e
    let ds := Nat.toDigits 10 d.digits
    let lead : Int := d.exponent + ds.length - 1
    let body :=
      if m = 0 then ['0', '.', '0']
      else if style.leastPlain ≤ lead ∧ lead ≤ style.mostPlain then plain ds (lead + 1)
      else scientific ds lead
    String.ofList (if negative then '-' :: body else body)

end FloatStyle

end PlotDeck.Decimal

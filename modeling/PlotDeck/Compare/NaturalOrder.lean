/-!
# Natural order

Names are compared as a reader would: a name falls into **runs** of ASCII digits and of other
characters, digit runs compare by the number they write, and everything else compares by character.
Names whose runs all compare equal, such as `a007` and `a7`, are told apart character by character.
-/

namespace PlotDeck.Compare

/-- Compares two texts character by character; the first difference decides, and of two texts one of
which continues the other the shorter comes first. -/
def compareText : List Char → List Char → Ordering
  | [], [] => .eq
  | [], _ :: _ => .lt
  | _ :: _, [] => .gt
  | a :: s, b :: t => (compare a.toNat b.toNat).then (compareText s t)

/-- The maximal runs of ASCII digits and of other characters. -/
def runs : List Char → List (List Char)
  | [] => []
  | c :: r =>
    match runs r with
    | (d :: ds) :: rest =>
      if c.isDigit = d.isDigit then (c :: d :: ds) :: rest else [c] :: (d :: ds) :: rest
    | rest => [c] :: rest

/-- Whether a run is a number. -/
def isNumber : List Char → Bool
  | c :: _ => c.isDigit
  | [] => false

/-- A number without its leading zeros. -/
def significant (t : List Char) : List Char := t.dropWhile (· == '0')

/-- Compares two numbers of any length by value: of two numbers without leading zeros the longer one
is larger, and numbers of one length compare digit by digit. -/
def compareNumbers (s t : List Char) : Ordering :=
  (compare (significant s).length (significant t).length).then
    (compareText (significant s) (significant t))

/-- Compares two runs: by value if both are numbers, else as texts. -/
def compareRun (s t : List Char) : Ordering :=
  if isNumber s && isNumber t then compareNumbers s t else compareText s t

/-- Compares two sequences of runs; the first run that differs decides. -/
def compareRuns : List (List Char) → List (List Char) → Ordering
  | [], [] => .eq
  | [], _ :: _ => .lt
  | _ :: _, [] => .gt
  | s :: ss, t :: ts => (compareRun s t).then (compareRuns ss ts)

/-- The natural order of two names. -/
def natural (a b : String) : Ordering :=
  (compareRuns (runs a.toList) (runs b.toList)).then (compareText a.toList b.toList)

/-- Names in natural order; names that compare equal keep their order. -/
def sortNatural (names : List String) : List String :=
  names.mergeSort fun a b => natural a b != .gt

end PlotDeck.Compare

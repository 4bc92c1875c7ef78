/-!
# Parsers that decline or refuse

A TOML text is parsed by small parsers put together. A parser that does not apply **declines**, and
another may be tried in its place; one that has seen enough to be sure **refuses**, and the text is
faulty. Faults carry what was being read, what would have been expected and why it failed; each
parser on the way out adds what it knows.
-/

namespace PlotDeck.Toml

/-- Why a part of a text that is well written cannot stand. -/
inductive Cause where
  /-- A key is given twice, in a table that may be named. -/
  | duplicateKey (key : String) (table : Option (List String))
  /-- A dotted key goes through something that is no table. -/
  | notATable (path : List String) (kind : String)
  /-- A value is out of range. -/
  | outOfRange
  /-- A whole number is too large. -/
  | tooLarge
  /-- A whole number is too small. -/
  | tooSmall
  /-- Values are nested too deeply. -/
  | tooDeep
deriving DecidableEq, Repr

/-- The text of a cause. -/
def Cause.message : Cause → String
  | duplicateKey key none => "duplicate key \x60" ++ key ++ "\x60"
  | duplicateKey key (some []) => "duplicate key \x60" ++ key ++ "\x60 in document root"
  | duplicateKey key (some table) =>
    "duplicate key \x60" ++ key ++ "\x60 in table \x60" ++ ".".intercalate table ++ "\x60"
  | notATable path kind =>
    "dotted key \x60" ++ ".".intercalate path ++
      "\x60 attempted to extend non-table type (" ++ kind ++
      ")"
  | outOfRange => "value is out of range"
  | tooLarge => "number too large to fit in target type"
  | tooSmall => "number too small to fit in target type"
  | tooDeep => "recursion limit exceeded"

/-- A fault in a text, with what is left of the text from its place. -/
structure Fault where
  /-- What was being read. -/
  label : Option String := none
  /-- What would have been expected. -/
  expected : List String := []
  /-- Why it cannot stand. -/
  cause : Option Cause := none
  /-- What is left of the text. -/
  rest : List Char
deriving DecidableEq, Repr

/-- The text of a fault: one line for each of the things known of it. -/
def Fault.message (f : Fault) : String :=
  "\n".intercalate <|
    (f.label.map ("invalid " ++ ·)).toList ++
    (if f.expected = [] then [] else ["expected " ++ ", ".intercalate f.expected]) ++
    (f.cause.map Cause.message).toList

/-- What a parser comes to. -/
inductive Outcome (α : Type) where
  /-- A result, and what is left of the text. -/
  | ok (a : α) (rest : List Char)
  /-- The parser does not apply. -/
  | declined (f : Fault)
  /-- The text is faulty. -/
  | refused (f : Fault)

/-- A parser. -/
def Parser (α : Type) : Type := List Char → Outcome α

namespace Parser
variable {α β γ : Type}

/-- Goes on with a parser that depends on the result. -/
def andThen (p : Parser α) (f : α → Parser β) : Parser β := fun t =>
  match p t with
  | .ok a r => f a r
  | .declined e => .declined e
  | .refused e => .refused e

instance : Monad Parser where
  pure a t := .ok a t
  bind := andThen

/-- Does not apply. -/
def decline : Parser α := fun t => .declined { rest := t }

/-- Adds to the fault of a parser. -/
def mapFault (g : Fault → Fault) (p : Parser α) : Parser α := fun t =>
  match p t with
  | .ok a r => .ok a r
  | .declined e => .declined (g e)
  | .refused e => .refused (g e)

/-- Says what is being read, unless something more precise is known. -/
def label (what : String) (p : Parser α) : Parser α :=
  p.mapFault fun e => { e with label := e.label.orElse fun _ => some what }

/-- Says what would have been expected. -/
def expect (what : String) (p : Parser α) : Parser α :=
  p.mapFault fun e => { e with expected := e.expected ++ [what] }

/-- Says which sign would have been expected. -/
def expectSign (sign : String) (p : Parser α) : Parser α := p.expect ("\x60" ++ sign ++ "\x60")

/-- Refuses where the parser declines. -/
def commit (p : Parser α) : Parser α := fun t =>
  match p t with
  | .declined e => .refused e
  | o => o

/-- Tries another parser where the first declines. -/
def orElse (p q : Parser α) : Parser α := fun t =>
  match p t with
  | .declined _ => q t
  | o => o

/-- Reads something or nothing. -/
def optional (p : Parser α) : Parser (Option α) := fun t =>
  match p t with
  | .ok a r => .ok (some a) r
  | .declined _ => .ok none t
  | .refused e => .refused e

/-- Reads without taking anything off the text. -/
def look (p : Parser α) : Parser α := fun t =>
  match p t with
  | .ok a _ => .ok a t
  | o => o

/-- Gives a result another form, or declines at the place where it started. -/
def check (p : Parser α) (f : α → Except Cause β) : Parser β := fun t =>
  match p t with
  | .ok a r =>
    match f a with
    | .ok b => .ok b r
    | .error cause => .declined { cause := some cause, rest := t }
  | .declined e => .declined e
  | .refused e => .refused e

/-- A character that satisfies a test. -/
def one (test : Char → Bool) : Parser Char := fun t =>
  match t with
  | c :: r => if test c then .ok c r else .declined { rest := t }
  | [] => .declined { rest := t }

/-- A given character. -/
def char (c : Char) : Parser Char := one (· == c)

/-- The next character, whatever it is. -/
def any : Parser Char := one fun _ => true

/-- Given characters one after the other. -/
def word (w : List Char) : Parser (List Char) := fun t =>
  if w.isPrefixOf t then .ok w (t.drop w.length) else .declined { rest := t }

/-- All characters from here on that satisfy a test. -/
def takeWhile (test : Char → Bool) : Parser (List Char) := fun t =>
  .ok (t.takeWhile test) (t.dropWhile test)

/-- One or more characters that satisfy a test. -/
def takeSome (test : Char → Bool) : Parser (List Char) := fun t =>
  match t.takeWhile test with
  | [] => .declined { rest := t }
  | cs => .ok cs (t.dropWhile test)

/-- Exactly `n` characters that satisfy a test. -/
def takeExactly (n : Nat) (test : Char → Bool) : Parser (List Char) := fun t =>
  let cs := (t.take n).takeWhile test
  if cs.length = n then .ok cs (t.drop n) else .declined { rest := t }

/-- The end of the text. -/
def atEnd : Parser Unit := fun t => if t = [] then .ok () [] else .declined { rest := t }

/-- As many results as there are; `fuel` bounds how many. -/
def many (p : Parser α) : Nat → Parser (List α)
  | 0, t => .ok [] t
  | fuel + 1, t =>
    match p t with
    | .ok a r =>
      match many p fuel r with
      | .ok l r => .ok (a :: l) r
      | .declined e => .declined e
      | .refused e => .refused e
    | .declined _ => .ok [] t
    | .refused e => .refused e

/-- Results with separators between them. A separator that no result follows is left. -/
def separated (p : Parser α) (sep : Parser β) : Nat → Parser (List α)
  | 0, t => .ok [] t
  | fuel + 1, t =>
    match p t with
    | .ok a r =>
      match many (do let _ ← sep; p) fuel r with
      | .ok l r => .ok (a :: l) r
      | .declined e => .declined e
      | .refused e => .refused e
    | .declined _ => .ok [] t
    | .refused e => .refused e

/-- At least one result, with separators between results. -/
def separatedSome (p : Parser α) (sep : Parser β) (fuel : Nat) : Parser (List α) := do
  let a ← p
  let l ← many (do let _ ← sep; p) fuel
  return a :: l

/-- The number of characters that are left: a bound for repetition. -/
def size : Parser Nat := fun t => .ok (t.length + 1) t

end Parser

end PlotDeck.Toml

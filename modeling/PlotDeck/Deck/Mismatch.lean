import PlotDeck.Decimal.Shortest
import PlotDeck.Text.Quoted

/-!
# Mismatches

A description can be well written in its format and still not describe a deck: a value is of the
wrong kind, a member is missing or given twice. These faults are the same whatever the format, and
so are their texts, apart from how a format names its null and writes its numbers.
-/

namespace PlotDeck

open Decimal (Binary64 FloatStyle)

/-- What was found where something else was expected. -/
inductive Found where
  /-- No value. -/
  | null
  /-- A truth value. -/
  | flag (b : Bool)
  /-- A whole number. -/
  | integer (n : Int)
  /-- A whole number of more than 64 bits. -/
  | wideInteger (n : Int)
  /-- A number with a fraction or an exponent. -/
  | float (x : Binary64)
  /-- A text. -/
  | text (s : String)
  /-- A list. -/
  | list
  /-- Members with names. -/
  | record
deriving DecidableEq, Repr

/-- How a format shows the values it found. -/
structure FoundStyle where
  /-- What no value is called. -/
  null : String
  /-- How numbers with a fraction are written. -/
  float : FloatStyle
deriving DecidableEq, Repr

/-- The description of what was found. -/
def Found.describe (style : FoundStyle) : Found → String
  | null => style.null
  | flag b => "boolean \x60" ++ (if b then "true" else "false") ++ "\x60"
  | integer n => s!"integer \x60{n}\x60"
  | wideInteger n => s!"integer \x60{n}\x60 as " ++ (if n < 0 then "i128" else "u128")
  | float x => "floating point \x60" ++ style.float.render x ++ "\x60"
  | text s => "string " ++ Text.quoted s
  | list => "sequence"
  | record => "map"

/-- Why a well-formed description is no description of a deck. -/
inductive Mismatch where
  /-- A value of another kind was expected. -/
  | wrongType (found : Found) (expected : String)
  /-- A value of another sort was expected of a text that claims to be one. -/
  | wrongValue (found : Found) (expected : String)
  /-- A list of another length was expected. -/
  | wrongLength (length : Nat) (expected : String)
  /-- A member has to be given. -/
  | missing (name : String)
  /-- A member is given twice. -/
  | duplicate (name : String)
  /-- A plot is spelled in none of the ways known. -/
  | unknownSpelling
  /-- A plot carries a tag. -/
  | tagged
deriving DecidableEq, Repr

/-- The text of a mismatch. -/
def Mismatch.message (style : FoundStyle) : Mismatch → String
  | wrongType found expected =>
    "invalid type: " ++ found.describe style ++ ", expected " ++ expected
  | wrongValue found expected =>
    "invalid value: " ++ found.describe style ++ ", expected " ++ expected
  | wrongLength length expected => s!"invalid length {length}, expected " ++ expected
  | missing name => "missing field \x60" ++ name ++ "\x60"
  | duplicate name => "duplicate field \x60" ++ name ++ "\x60"
  | unknownSpelling => "data did not match any variant of untagged enum PlotEntry"
  | tagged => "untagged and internally tagged enums do not support enum input"

end PlotDeck

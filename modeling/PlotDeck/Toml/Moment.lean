import PlotDeck.Toml.String

/-!
# TOML dates and times

A date, a time of day, or both, perhaps with an offset from universal time. No part of a deck is a
date, so all that matters of one is where it ends and whether it exists.
-/

namespace PlotDeck.Toml

open PlotDeck.Toml.Parser

/-- A number of two digits within bounds. -/
def twoDigits (least most : Nat) : Parser Nat :=
  (takeExactly 2 Char.isDigit).check fun ds =>
    let n := valueOf 10 ds
    if least ≤ n ∧ n ≤ most then .ok n else .error .outOfRange

/-- Whether a year has a leap day. -/
def isLeapYear (year : Nat) : Bool := year % 4 == 0 && (year % 100 != 0 || year % 400 == 0)

/-- The number of days in a month. -/
def daysInMonth (year month : Nat) : Nat :=
  if month = 2 then if isLeapYear year then 29 else 28
  else if month ∈ [4, 6, 9, 11] then 30
  else 31

/-- A day of the calendar. Once there is a year, everything else has to be right. -/
def date : Parser Unit := do
  let year ← takeExactly 4 Char.isDigit
  let _ ← char '-'
  let month ← (twoDigits 1 12).commit
  let _ ← (char '-').commit
  commit <| (twoDigits 1 31).check fun day =>
    if day ≤ daysInMonth (valueOf 10 year) month then .ok () else .error .outOfRange

/-- A time of day, to the second or finer. -/
def timeOfDay : Parser Unit := do
  let _ ← twoDigits 0 23
  let _ ← char ':'
  commit do
    let _ ← twoDigits 0 59
    let _ ← char ':'
    let _ ← twoDigits 0 60
    let _ ← Parser.optional do
      let _ ← char '.'
      takeSome Char.isDigit
    return ()

/-- An offset from universal time. -/
def offset : Parser Unit :=
  label "time offset" <| Parser.orElse
    (do let _ ← one fun c => c == 'Z' || c == 'z'; return ())
    (do
      let _ ← one fun c => c == '+' || c == '-'
      commit do
        let _ ← twoDigits 0 23
        let _ ← char ':'
        let _ ← twoDigits 0 59
        return ())

/-- A date, a date and a time, or a time. -/
def moment : Parser Unit :=
  Parser.orElse
    (label "date-time" do
      date
      let _ ← Parser.optional do
        let _ ← one fun c => c == 'T' || c == 't' || c == ' '
        timeOfDay
        offset.optional
      return ())
    (timeOfDay.label "time")

end PlotDeck.Toml

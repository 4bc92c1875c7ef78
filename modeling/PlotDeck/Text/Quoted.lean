import PlotDeck.Text.Hidden

/-!
# Quoted text

An error message that has to show a text writes it between double quotes, on one line and with every
character visible: quotes and backslashes get a backslash, tab, line feed, carriage return and the
null character their short names, and other characters that would not show their number.
-/

namespace PlotDeck.Text

/-- How a character is written between quotes. -/
def quoteChar (c : Char) : List Char :=
  if c = '"' ∨ c = '\\' then ['\\', c]
  else if c = '\t' then ['\\', 't']
  else if c = '\n' then ['\\', 'n']
  else if c = '\r' then ['\\', 'r']
  else if c.toNat = 0 then ['\\', '0']
  else if isHidden c then "\\u\x7b".toList ++ Nat.toDigits 16 c.toNat ++ ['\x7d']
  else [c]

/-- A text between quotes. -/
def quoted (s : String) : String :=
  String.ofList ('"' :: s.toList.flatMap quoteChar ++ ['"'])

end PlotDeck.Text

import PlotDeck.Host.OsError
import PlotDeck.Path

/-!
# Formats and errors of deck descriptions

A deck is described in JSON, TOML or YAML; the extension of a file tells which. A description that
cannot be used is an error that says where in its text the fault lies, as far as that is known.
-/

namespace PlotDeck

/-- The formats of a description. -/
inductive Format where
  /-- JavaScript object notation. -/
  | json
  /-- Tables of keys and values. -/
  | toml
  /-- Indented text. -/
  | yaml
deriving DecidableEq, Repr

namespace Format

/-- The name of a format. -/
def name : Format → String
  | json => "JSON"
  | toml => "TOML"
  | yaml => "YAML"

/-- The format of a file by its extension, in capital letters or small ones; without a known
extension it is JSON. -/
def ofPath (p : Path) : Format :=
  match p.extension?.map fun ext => String.ofList (ext.toList.map Char.toLower) with
  | some "toml" => toml
  | some "yaml" | some "yml" => yaml
  | _ => json

end Format

/-- A range of byte offsets in a text. -/
structure Span where
  /-- Where the range starts. -/
  start : Nat
  /-- Where it ends. -/
  stop : Nat
deriving DecidableEq, Repr

/-- Why a description could not be used. -/
inductive DeckError where
  /-- The file could not be read. -/
  | unreadable (path : Path) (cause : OsError)
  /-- The text does not describe a deck. -/
  | malformed (format : Format) (message : String) (span : Option Span)
deriving DecidableEq, Repr

namespace DeckError

/-- The text of an error. -/
def message : DeckError → String
  | unreadable path cause => "failed to read config file " ++ path.text ++ ": " ++ cause.message
  | malformed format message _ => "invalid " ++ format.name ++ " config: " ++ message

/-- Where the fault lies. -/
def span? : DeckError → Option Span
  | unreadable _ _ => none
  | malformed _ _ span => span

end DeckError

end PlotDeck

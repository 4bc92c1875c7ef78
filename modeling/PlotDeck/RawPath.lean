import PlotDeck.Output
import PlotDeck.Text.Utf8

/-!
# Paths that are no texts

A machine takes any bytes for a path. Here such a path is **spelled** with one character for each
byte. The slash and the dot are bytes, so the functions on paths take a spelling apart as the
machine takes apart the bytes, and what is made of it is spelled again.

The outputs next to a path are named after the text that its stem *shows*. That is not all of the
stem where its bytes are no text.
-/

namespace PlotDeck

/-- Bytes, with one character for each. -/
def spell (bytes : List UInt8) : String := String.ofList (bytes.map fun b => Char.ofNat b.toNat)

/-- The bytes that are spelled so. -/
def unspell (s : String) : List UInt8 := s.toList.map fun c => UInt8.ofNat c.toNat

/-- A text with one character for each byte of its UTF-8 form. -/
def bytewise (s : String) : String := spell (Text.utf8 s.toList)

/-- The text that spelled bytes show. -/
def shownText (s : String) : String := String.ofList (Text.decodeFrom none (unspell s))

/-- The path of a file or directory, whatever its bytes are. -/
structure RawPath where
  /-- The path as the machine takes it. -/
  bytes : List UInt8
deriving DecidableEq, Repr

namespace RawPath

/-- The path that a text is written as. -/
def ofPath (p : Path) : RawPath := ⟨Text.utf8 p.text.toList⟩

/-- The path with one character for each byte. -/
def spelling (p : RawPath) : Path := ⟨spell p.bytes⟩

/-- The text that the stem of a path shows. -/
def stemText (p : RawPath) : String := shownText (p.spelling.fileStem?.getD "")

/-- The outputs next to a file, named after the text that its stem shows. -/
def outputs (p : RawPath) : OutputPaths :=
  .ofStem (p.spelling.parent?.getD ⟨""⟩) (bytewise p.stemText)

end RawPath

end PlotDeck

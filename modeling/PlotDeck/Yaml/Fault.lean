import PlotDeck.Yaml.Cursor

/-!
# Faults of the YAML notation

What can be wrong with a text as YAML: the problem, where it shows, and what was being read when it
did, with the place where that started.
-/

namespace PlotDeck.Yaml

/-- What is wrong. -/
inductive Problem where
  | sequenceNotAllowed
  | keyNotAllowed
  | valueNotAllowed
  | missingColon
  | noToken
  | unknownDirective
  | missingDirectiveName
  | badDirectiveName
  | missingLineEnd
  | missingVersionPoint
  | longVersion
  | missingVersion
  | missingBlank
  | missingGap
  | badAnchor
  | missingTagClose
  | missingTagMark
  | missingTagText
  | badOctet
  | badFirstOctet
  | badFurtherOctet
  | zeroIndent
  | tabForIndent
  | documentInQuotes
  | endInQuotes
  | unknownEscape
  | missingHexDigit
  | badCodePoint
  | colonInFlow
  | tabBelowIndent
  | missingDocumentStart
  | repeatedVersion
  | wrongVersion
  | repeatedHandle
  | unknownHandle
  | missingContent
  | missingDash
  | missingKey
  | missingSequenceEnd
  | missingMappingEnd
deriving DecidableEq, Repr

/-- The text of a problem. -/
def Problem.message : Problem → String
  | sequenceNotAllowed => "block sequence entries are not allowed in this context"
  | keyNotAllowed => "mapping keys are not allowed in this context"
  | valueNotAllowed => "mapping values are not allowed in this context"
  | missingColon => "could not find expected ':'"
  | noToken => "found character that cannot start any token"
  | unknownDirective => "found unknown directive name"
  | missingDirectiveName => "could not find expected directive name"
  | badDirectiveName => "found unexpected non-alphabetical character"
  | missingLineEnd => "did not find expected comment or line break"
  | missingVersionPoint => "did not find expected digit or '.' character"
  | longVersion => "found extremely long version number"
  | missingVersion => "did not find expected version number"
  | missingBlank => "did not find expected whitespace"
  | missingGap => "did not find expected whitespace or line break"
  | badAnchor => "did not find expected alphabetic or numeric character"
  | missingTagClose => "did not find the expected '>'"
  | missingTagMark => "did not find expected '!'"
  | missingTagText => "did not find expected tag URI"
  | badOctet => "did not find URI escaped octet"
  | badFirstOctet => "found an incorrect leading UTF-8 octet"
  | badFurtherOctet => "found an incorrect trailing UTF-8 octet"
  | zeroIndent => "found an indentation indicator equal to 0"
  | tabForIndent => "found a tab character where an indentation space is expected"
  | documentInQuotes => "found unexpected document indicator"
  | endInQuotes => "found unexpected end of stream"
  | unknownEscape => "found unknown escape character"
  | missingHexDigit => "did not find expected hexadecimal number"
  | badCodePoint => "found invalid Unicode character escape code"
  | colonInFlow => "found unexpected ':'"
  | tabBelowIndent => "found a tab character that violates indentation"
  | missingDocumentStart => "did not find expected <document start>"
  | repeatedVersion => "found duplicate %YAML directive"
  | wrongVersion => "found incompatible YAML document"
  | repeatedHandle => "found duplicate %TAG directive"
  | unknownHandle => "found undefined tag handle"
  | missingContent => "did not find expected node content"
  | missingDash => "did not find expected '-' indicator"
  | missingKey => "did not find expected key"
  | missingSequenceEnd => "did not find expected ',' or ']'"
  | missingMappingEnd => "did not find expected ',' or '\x7d'"

/-- What was being read. -/
inductive Activity where
  | simpleKey
  | nextToken
  | directive
  | versionDirective
  | tagDirective
  | handleOfDirective
  | handleEndOfDirective
  | textOfDirective
  | tag
  | tagText
  | anchor
  | reference
  | blockScalar
  | quotedScalar
  | escape
  | plainScalar
  | node
  | blockNode
  | flowNode
  | blockSequence
  | blockMapping
  | flowSequence
  | flowMapping
deriving DecidableEq, Repr

/-- The text of what was being read. -/
def Activity.message : Activity → String
  | simpleKey => "while scanning a simple key"
  | nextToken => "while scanning for the next token"
  | directive => "while scanning a directive"
  | versionDirective => "while scanning a %YAML directive"
  | tagDirective => "while scanning a %TAG directive"
  | handleOfDirective => "while scanning a tag directive"
  | handleEndOfDirective => "while parsing a tag directive"
  | textOfDirective => "while parsing a %TAG directive"
  | tag => "while scanning a tag"
  | tagText => "while parsing a tag"
  | anchor => "while scanning an anchor"
  | reference => "while scanning an alias"
  | blockScalar => "while scanning a block scalar"
  | quotedScalar => "while scanning a quoted scalar"
  | escape => "while parsing a quoted scalar"
  | plainScalar => "while scanning a plain scalar"
  | node => "while parsing a node"
  | blockNode => "while parsing a block node"
  | flowNode => "while parsing a flow node"
  | blockSequence => "while parsing a block collection"
  | blockMapping => "while parsing a block mapping"
  | flowSequence => "while parsing a flow sequence"
  | flowMapping => "while parsing a flow mapping"

/-- A fault of the notation. -/
inductive Fault where
  /-- A character that may not stand in a text, behind so many bytes. -/
  | control (offset : Nat)
  /-- A problem at a place, and what was being read since an earlier one. -/
  | found (problem : Problem) (place : Mark) (during : Option (Activity × Mark))
  /-- A reference to nothing. -/
  | unknownAnchor (place : Mark)
deriving DecidableEq, Repr

namespace Fault

/-- A place behind a text, unless it is the first. -/
def at? (m : Mark) : String := if m.isFirst then "" else " at " ++ m.text

/-- The text of a fault. What was being read has a place if that says anything new. -/
def message : Fault → String
  | control offset =>
    "control characters are not allowed" ++ (if offset = 0 then "" else s!" at position {offset}")
  | found problem place none => problem.message ++ at? place
  | found problem place (some (activity, start)) =>
    let same := start.line == place.line && start.column == place.column
    problem.message ++ at? place ++ ", " ++ activity.message ++ (if same then "" else at? start)
  | unknownAnchor place => "unknown anchor" ++ at? place

/-- Where a fault lies. A character that may not stand in the text is found before the text has
places, so its fault lies at the start. -/
def mark : Fault → Mark
  | control _ => {}
  | found _ place _ => place
  | unknownAnchor place => place

end Fault

/-- Stops with a problem at a cursor. -/
def Cursor.fail {α : Type} (c : Cursor) (activity : Activity) (start : Mark) (problem : Problem) :
    Except Fault α :=
  .error (.found problem c.mark (some (activity, start)))

end PlotDeck.Yaml

import PlotDeck.Layout.Builtin
import PlotDeck.Template.Render

/-!
# The two documents of a deck

A deck becomes two documents. The **body** holds its slides, one after the other with nothing in
between; the **main** document is a front matter template in which the front page, the outline and
a reference to the body have been filled in.
-/

namespace PlotDeck

open Template

/-! ### The body -/

/-- The text of one slide, in the smallest layout that has room for its plots. -/
def Registry.renderSlide (r : Registry) (s : Slide) : Except LayoutError String := do
  let layout ← r.resolve s.plots.length
  layout.render s

/-- The texts of slides, the first of which has the 1-based position `index`. The first slide that
cannot be laid out is the answer, and its error names it. -/
def Registry.renderSlides (r : Registry) (index : Nat) :
    List Slide → Except LayoutError (List String)
  | [] => .ok []
  | s :: rest => do
    let text ← (r.renderSlide s).mapError (.inSlide index s.title)
    let texts ← r.renderSlides (index + 1) rest
    return text :: texts

/-- The body of a deck: its slides in order. -/
def Registry.renderBody (r : Registry) (slides : List Slide) : Except LayoutError String :=
  (r.renderSlides 1 slides).map String.join

/-! ### The main document -/

/-- The frame that shows the table of contents. -/
def outlineFrame : String :=
  "\\begin\x7bframe\x7d\x7bOutline\x7d\n\\tableofcontents\n\\end\x7bframe\x7d"

/-- What the front matter refers to. -/
structure FrontMatter where
  /-- The title page. -/
  page : FrontPage
  /-- How the main document names the file that holds the body. -/
  bodyReference : String
  /-- Whether the outline is shown. -/
  outline : Bool
deriving DecidableEq, Repr

/-- The text that the front matter puts in place of a slot. Slots of a slide have none. -/
def FrontMatter.value? (f : FrontMatter) : Slot → Option (List Char)
  | .title => some f.page.title.toList
  | .subtitle => some f.page.subtitle.toList
  | .author => some f.page.author.toList
  | .file => some f.bodyReference.toList
  | .outline => some (if f.outline then outlineFrame else "").toList
  | _ => none

/-- The text that stands for a token once its placeholder is filled. -/
def fillToken (value? : Slot → Option (List Char)) (tok : Token) : List Char :=
  match tok with
  | .placeholder name => ((Slot.ofName? name).bind value?).getD tok.text
  | _ => tok.text

/-- Fills a front matter template line by line. Names that are no slot of the front matter, and all
other text, are copied. -/
def FrontMatter.fill (f : FrontMatter) (template : String) : String :=
  String.ofList <| (Text.lines template.toList).flatMap fun line =>
    (lex line).flatMap (fillToken f.value?)

/-- The built-in front matter template. -/
def builtinFrontMatter : String :=
  String.join <| [
    "\\documentclass\x7bbeamer\x7d",
    "\\usetheme\x7bMadrid\x7d",
    "\\usepackage\x7bgraphicx\x7d",
    "\\setbeamertemplate\x7bnavigation symbols\x7d\x7b\x7d",
    "",
    "\\title\x7b@TITLE\x7d",
    "\\subtitle\x7b@SUBTITLE\x7d",
    "\\author\x7b@AUTHOR\x7d",
    "\\date\x7b\\today\x7d",
    "",
    "\\begin\x7bdocument\x7d",
    "",
    "\\begin\x7bframe\x7d",
    "\\titlepage",
    "\\end\x7bframe\x7d",
    "",
    "@TOC",
    "",
    "\\input\x7b@FILE\x7d",
    "",
    "\\end\x7bdocument\x7d"].map (· ++ "\n")

/-! ### Both documents -/

/-- How a deck is rendered, beyond what the deck says itself. -/
structure RenderOptions where
  /-- A front matter template to use instead of the built-in one. -/
  frontTemplate : Option String := none
  /-- Whether to show the outline, whatever the deck says. -/
  outline : Option Bool := none
deriving DecidableEq, Repr

/-- The two documents of a deck. -/
structure Documents where
  /-- The document that is typeset. -/
  main : String
  /-- The slides, which the main document reads in. -/
  body : String
deriving DecidableEq, Repr

/-- Renders both documents of a deck. -/
def Deck.render (d : Deck) (bodyReference : String) (o : RenderOptions) :
    Except LayoutError Documents := do
  let body ← Registry.builtin.renderBody d.slides
  let front : FrontMatter := ⟨d.frontPage, bodyReference, o.outline.getD d.outline⟩
  return { main := front.fill (o.frontTemplate.getD builtinFrontMatter), body }

end PlotDeck

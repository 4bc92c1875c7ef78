import PlotDeck.Document
import PlotDeck.Proofs.Template.Slot

/-!
# The front matter as one substitution

A front matter template is filled line by line, but no token reaches over the end of a line, so it
might as well be cut into tokens as a whole. Each token is a **piece** on its own: a field, if it is
a placeholder with exactly the name of the field, or raw text (`FrontMatter.pieceOf_cases`). The
pieces are those of the template alone; whatever the front matter holds, its main document is these
pieces with the fields filled in (`FrontMatter.fill_eq_flatMap_pieces`).
-/

namespace PlotDeck

open Template

namespace FrontMatter

/-- What a front matter template can refer to. -/
inductive Field where
  /-- The title. -/
  | title
  /-- The subtitle. -/
  | subtitle
  /-- The author. -/
  | author
  /-- The file that holds the body. -/
  | file
  /-- The outline frame. -/
  | outline
deriving DecidableEq, Repr

namespace Field

/-- The name that a placeholder must have to stand for the field. -/
def name : Field → List Char
  | title => "TITLE".toList
  | subtitle => "SUBTITLE".toList
  | author => "AUTHOR".toList
  | file => "FILE".toList
  | outline => "TOC".toList

/-- All fields. -/
def all : List Field := [title, subtitle, author, file, outline]

/-- The slot of the field. -/
def slot : Field → Slot
  | title => .title
  | subtitle => .subtitle
  | author => .author
  | file => .file
  | outline => .outline

theorem mem_all (x : Field) : x ∈ all := by cases x <;> decide

theorem name_slot (x : Field) : x.slot.name = x.name := by cases x <;> rfl

theorem ofName?_name (x : Field) : Slot.ofName? x.name = some x.slot := by
  have hname : x.slot.HasName := by cases x <;> trivial
  rw [← name_slot, Slot.ofName?_name hname]

end Field

/-- The text of a field. -/
def text (f : FrontMatter) : Field → List Char
  | .title => f.page.title.toList
  | .subtitle => f.page.subtitle.toList
  | .author => f.page.author.toList
  | .file => f.bodyReference.toList
  | .outline => (if f.outline then outlineFrame else "").toList

/-- A piece of a front matter template. -/
inductive Piece where
  /-- Text that is copied. -/
  | raw (t : List Char)
  /-- A field that is filled in. -/
  | field (x : Field)
deriving DecidableEq, Repr

namespace Piece

/-- The piece as it is written in the template. -/
def source : Piece → List Char
  | raw t => t
  | field x => '@' :: x.name

/-- The piece in the main document. -/
def filled (f : FrontMatter) : Piece → List Char
  | raw t => t
  | field x => f.text x

end Piece

/-- The piece that a token is: a field if it is a placeholder with exactly the field's name. -/
def pieceOf (t : Token) : Piece :=
  match Field.all.find? fun x => t == .placeholder x.name with
  | some x => .field x
  | none => .raw t.text

/-- The pieces of a template, which is cut into tokens as a whole. -/
def pieces (template : String) : List Piece := (lex template.toList).map pieceOf

/-! ### Tokens as pieces -/

variable {f : FrontMatter}

/-- A token is a field if it has the name of one, and raw text if it has the name of none. -/
theorem pieceOf_cases (t : Token) :
    (∃ x : Field, t = .placeholder x.name ∧ pieceOf t = .field x) ∨
    ((∀ x : Field, t ≠ .placeholder x.name) ∧ pieceOf t = .raw t.text) := by
  cases hfind : Field.all.find? fun x => t == .placeholder x.name with
  | some x =>
    have hx : t = .placeholder x.name := by simpa using List.find?_some hfind
    exact .inl ⟨x, hx, by simp [pieceOf, hfind]⟩
  | none =>
    refine .inr ⟨fun x => ?_, by simp [pieceOf, hfind]⟩
    simpa using List.find?_eq_none.1 hfind x (Field.mem_all x)

theorem source_pieceOf (t : Token) : (pieceOf t).source = t.text := by
  rcases pieceOf_cases t with ⟨x, rfl, hx⟩ | ⟨-, hraw⟩
  · rw [hx]
    rfl
  · rw [hraw]
    rfl

theorem value?_slot (x : Field) : f.value? x.slot = some (f.text x) := by cases x <;> rfl

/-- The front matter has no values for slots other than those of its fields. -/
theorem value?_eq_none {slot : Slot} (h : ∀ x : Field, x.slot ≠ slot) : f.value? slot = none := by
  cases slot with
  | title => exact absurd rfl (h .title)
  | subtitle => exact absurd rfl (h .subtitle)
  | author => exact absurd rfl (h .author)
  | file => exact absurd rfl (h .file)
  | outline => exact absurd rfl (h .outline)
  | _ => rfl

/-- A token is filled like the piece that it is. -/
theorem fillToken_value? (t : Token) : fillToken f.value? t = (pieceOf t).filled f := by
  rcases pieceOf_cases t with ⟨x, rfl, hx⟩ | ⟨hne, hraw⟩
  · rw [hx, fillToken, Field.ofName?_name, Option.bind_some, value?_slot]
    rfl
  · rw [hraw]
    cases t with
    | literal u => rfl
    | newline => rfl
    | placeholder name =>
      have hnone : (Slot.ofName? name).bind f.value? = none := by
        cases hslot : Slot.ofName? name with
        | none => rfl
        | some slot =>
          refine value?_eq_none fun x hx => hne x ?_
          -- a slot with the value of a field is read from the field's own name only
          have hplot : slot.isPlot = false := by rw [← hx]; cases x <;> rfl
          rw [← Slot.name_eq_of_ofName? hslot hplot, ← hx, Field.name_slot]
      rw [fillToken, hnone]
      rfl

/-- **One substitution**: every template has a sequence of pieces that make it up, and for every
front matter the main document is this sequence with the fields filled in. -/
theorem fill_eq_flatMap_pieces (template : String) :
    (pieces template).flatMap Piece.source = template.toList ∧
    ∀ f : FrontMatter, (f.fill template).toList = (pieces template).flatMap (Piece.filled f) := by
  constructor
  · have hsource : (fun t => (pieceOf t).source) = Token.text := funext source_pieceOf
    rw [pieces, List.flatMap_map, hsource, flatMap_text_lex]
  · intro f
    have hfilled : fillToken f.value? = fun t => (pieceOf t).filled f := funext fillToken_value?
    have htokens : (Text.lines template.toList).flatMap
        (fun line => (lex line).flatMap (fillToken f.value?))
          = (lex template.toList).flatMap (fillToken f.value?) := by
      rw [← flatMap_lex_lines, List.flatMap_assoc]
    rw [fill, String.toList_ofList, htokens, hfilled, pieces, List.flatMap_map]

/-- A longer name is raw text, although a field's name stands in it. -/
example : pieces "@TITLES @TITLE\n"
    = [.raw "@TITLES".toList, .raw [' '], .field .title, .raw ['\n']] := by decide +kernel

end FrontMatter

end PlotDeck

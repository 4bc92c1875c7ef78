import Mathlib.Data.List.Flatten
import PlotDeck.Proofs.Template.Erasures
import PlotDeck.Proofs.Template.FixedPoint

/-!
# Marks that are left

A placeholder is **foreign** when its name is none of the slots of a slide, so that no slide fills
it and none erases it. If the strings of a slide hold no mark, every mark in the rendered text comes
from a foreign placeholder of the layout: the marks of the text and those of the directives that
were cut are together as many as there are foreign placeholders on the lines that stay
(`Layout.count_mark_add`). So there are at most as many as in the layout, and none where all
placeholders are slots of a slide (`Layout.count_mark_render`).
-/

namespace PlotDeck

open Template Text

namespace Template

/-- Whether a token is a placeholder that no slide fills or erases. -/
def Token.isForeign : Token → Bool
  | .placeholder name => !(Slot.ofName? name).any Slot.isOfSlide
  | _ => false

/-- How many marks go with the directives that are cut. -/
def erasedMarks (es : List Erasure) : Nat := (es.flatMap Erasure.header).count '@'

theorem erasedMarks_append (es es' : List Erasure) :
    erasedMarks (es ++ es') = erasedMarks es + erasedMarks es' := by
  simp [erasedMarks]

/-! ### Marks of tokens -/

theorem isForeign_of_ofName? {name : List Char} {slot : Slot} (h : Slot.ofName? name = some slot) :
    Token.isForeign (.placeholder name) = !slot.isOfSlide := by
  simp [Token.isForeign, h]

/-- A slot that a slide fills is a slot of a slide. -/
theorem isOfSlide_of_value? {s : Slide} {slot : Slot} {v : List Char} (h : s.value? slot = some v) :
    slot.isOfSlide = true := by
  cases slot with
  | title | subtitle | author | file | outline => cases h
  | _ => rfl

/-- A slot of a slide is filled or belongs to a plot. -/
theorem isOfSlide_eq_false {s : Slide} {slot : Slot} (h : s.value? slot = none)
    (hplot : slot.isPlot = false) : slot.isOfSlide = false := by
  cases slot with
  | slideTitle | slideSection | topText | bottomText => cases h
  | plotCaption | plotPath => cases hplot
  | _ => rfl

/-- A placeholder that stays is foreign. -/
theorem isForeign_of_stays {s : Slide} {name : List Char}
    (h : Token.Stays s.value? (.placeholder name)) :
    Token.isForeign (.placeholder name) = true := by
  cases hslot : Slot.ofName? name with
  | none => simp [Token.isForeign, hslot]
  | some slot =>
    obtain ⟨hv, hplot⟩ := h slot hslot
    rw [isForeign_of_ofName? hslot, isOfSlide_eq_false hv hplot]
    rfl

/-- A token **marks only its start** when it is a placeholder with a plain name, or holds no
mark. -/
def Token.MarksStart : Token → Prop
  | .placeholder name => '@' ∉ name
  | t => '@' ∉ t.text

theorem marksStart_of_mem_lex {line : List Char} {t : Token} (h : t ∈ lex line) : t.MarksStart := by
  cases t with
  | placeholder name => exact fun hmem => absurd (isNameChar_of_mem_lex h _ hmem) (by decide)
  | literal u => exact fun hmem => absurd (isLiteralChar_of_mem_lex h _ hmem) (by decide)
  | newline => exact fun hmem => absurd hmem (by decide)

/-! ### Marks of a line -/

namespace Filling

variable {s : Slide} {f f' : Filling} {t : Token} {ts : List Token}

/-- What one token does to the marks of a line: a foreign placeholder brings one, and what a cut
takes away are the marks of the directive. -/
theorem Step.count_mark (h : Step s.value? f t f') (ht : t.MarksStart)
    (hvalues : ∀ slot v, s.value? slot = some v → '@' ∉ v) :
    f'.text.count '@' + (if f'.closing then (f.text.drop f'.text.length).count '@' else 0)
      = f.text.count '@' + if t.isForeign then 1 else 0 := by
  have hzero : ∀ {u : List Char}, '@' ∉ u → u.count '@' = 0 := List.count_eq_zero_of_not_mem
  cases h with
  | @value name slot v hslot hv =>
    have hforeign : Token.isForeign (.placeholder name) = false := by
      rw [isForeign_of_ofName? hslot, isOfSlide_of_value? hv]
      rfl
    simp [write, hforeign, hzero (hvalues slot v hv)]
  | copy hliteral hstays =>
    cases t with
    | placeholder name =>
      have hname : name.count '@' = 0 := hzero ht
      simp [write, Token.text, isForeign_of_stays hstays, hname]
    | literal u => exact absurd rfl (hliteral u)
    | newline => simp [write, Token.text, Token.isForeign]
  | literal u =>
    have hu : '@' ∉ u := ht
    have hclosing : '@' ∉ afterClosing u := fun hmem => hu ((afterClosing_suffix u).subset hmem)
    have hwritten : '@' ∉ if f.closing then afterClosing u else u := by
      split
      · exact hclosing
      · exact hu
    simp [write, Token.isForeign, hzero hwritten]
  | caption hslot => simp [write, isForeign_of_ofName? hslot, Slot.isOfSlide]
  | cut hslot hv hcut =>
    obtain ⟨header, hheader⟩ := cutEmbed?_isPrefix hcut
    rw [← hheader]
    simp [isForeign_of_ofName? hslot, Slot.isOfSlide]
  | drop hslot => simp [isForeign_of_ofName? hslot, Slot.isOfSlide]

/-- The marks of a run of tokens. -/
theorem count_mark_foldl (hts : ∀ t ∈ ts, t.MarksStart)
    (hvalues : ∀ slot v, s.value? slot = some v → '@' ∉ v) (f : Filling) :
    (ts.foldl (Filling.add s.value?) f).text.count '@' + erasedMarks (f.erasures s.value? ts)
      = f.text.count '@' + ts.countP Token.isForeign := by
  induction ts generalizing f with
  | nil => simp [erasures, erasedMarks]
  | cons t ts ih =>
    obtain ⟨ht, hts⟩ := List.forall_mem_cons.1 hts
    have hstep := (step_add s.value? f t).count_mark ht hvalues
    have hrest := ih hts (f.add s.value? t)
    have hhead : erasedMarks (if (f.add s.value? t).closing then
          [⟨f.text.drop (f.add s.value? t).text.length, closes ts⟩] else [])
        = if (f.add s.value? t).closing then
            (f.text.drop (f.add s.value? t).text.length).count '@' else 0 := by
      split <;> simp [erasedMarks]
    rw [List.foldl_cons, erasures, erasedMarks_append, hhead, List.countP_cons]
    omega

end Filling

/-- The marks of filled lines. -/
theorem count_mark_fillLines {s : Slide} (hvalues : ∀ slot v, s.value? slot = some v → '@' ∉ v)
    (ls : List (List Char)) :
    (ls.flatMap fun line => (fillLine s.value? line).text).count '@'
        + erasedMarks (ls.flatMap (lineErasures s.value?))
      = (ls.flatMap lex).countP Token.isForeign := by
  induction ls with
  | nil => simp [erasedMarks]
  | cons line ls ih =>
    have hmarks : ∀ t ∈ lex line, t.MarksStart := fun _ ht => marksStart_of_mem_lex ht
    have hline := Filling.count_mark_foldl hmarks hvalues .start
    have hstart : Filling.start.text.count '@' = 0 := rfl
    rw [hstart, ← lineErasures] at hline
    rw [List.flatMap_cons, List.flatMap_cons, List.flatMap_cons, List.count_append,
      erasedMarks_append, List.countP_append, fillLine]
    omega

end Template

/-! ### Marks of a rendered text -/

namespace Layout

variable {l : Layout} {s : Slide} {out : String}

/-- The foreign placeholders of the lines that stay are left in the text, or go with a directive
that is cut. -/
theorem count_mark_add (hout : l.render s = .ok out) (hs : ∀ t ∈ s.strings, '@' ∉ t.toList) :
    out.toList.count '@' + erasedMarks (l.erasures s)
      = ((l.keptSources s).flatMap lex).countP Token.isForeign := by
  rw [toList_of_render hout]
  refine count_mark_fillLines (fun slot v hv => ?_) _
  rcases Slide.value?_cases hv with rfl | ⟨t, ht, rfl⟩
  · exact List.not_mem_nil
  · exact hs t ht

/-- The lines that stay hold no more foreign placeholders than the layout. -/
theorem countP_keptSources_le (l : Layout) (s : Slide) :
    ((l.keptSources s).flatMap lex).countP Token.isForeign
      ≤ (lex l.source.toList).countP Token.isForeign := by
  have hsub : (l.keptSources s).Sublist (lines l.source.toList) := pick_sublist _ _
  rw [← flatMap_lex_lines l.source.toList]
  exact (hsub.flatMap lex).countP_le

/-- **Marks**: if the strings of a slide hold no mark, the marks of the rendered text and those of
the directives that are cut are as many as the foreign placeholders on the lines that stay. So the
text holds at most as many as the layout has foreign placeholders, and none at all where all
placeholders are slots of a slide, whichever plots are there. -/
theorem count_mark_render (hout : l.render s = .ok out) (hs : ∀ t ∈ s.strings, '@' ∉ t.toList) :
    out.toList.count '@' + erasedMarks (l.erasures s)
        = ((l.keptSources s).flatMap lex).countP Token.isForeign ∧
      out.toList.count '@' ≤ (lex l.source.toList).countP Token.isForeign ∧
      ((∀ name, .placeholder name ∈ lex l.source.toList →
        ∃ slot, Slot.ofName? name = some slot ∧ slot.isOfSlide = true) → '@' ∉ out.toList) := by
  have hadd := count_mark_add hout hs
  have hkept := countP_keptSources_le l s
  exact ⟨hadd, by omega, fun hslots => mark_not_mem_render hout hslots hs⟩

/-- A name that is no slot stays, unless it stands in the header of a directive that is cut; a slot
of the front page stays as well. -/
theorem count_mark_render_of_cut_header :
    Layout.render ⟨"custom", 2, "@SLIDE_TITLE @FOO \\includegraphics[@BAR]\x7b@PLOT2\x7d@\n@TITLE"⟩
        { title := "T", plots := [⟨"a.pdf", "A"⟩] } = .ok "T @FOO @\n@TITLE" ∧
      "T @FOO @\n@TITLE".toList.count '@' ≤
        (lex "@SLIDE_TITLE @FOO \\includegraphics[@BAR]\x7b@PLOT2\x7d@\n@TITLE".toList).countP
          Token.isForeign := by
  have htext : collapse (Layout.fill
      ⟨"custom", 2, "@SLIDE_TITLE @FOO \\includegraphics[@BAR]\x7b@PLOT2\x7d@\n@TITLE"⟩
        { title := "T", plots := [⟨"a.pdf", "A"⟩] }) = "T @FOO @\n@TITLE".toList := by
    decide +kernel
  have hout : Layout.render
      ⟨"custom", 2, "@SLIDE_TITLE @FOO \\includegraphics[@BAR]\x7b@PLOT2\x7d@\n@TITLE"⟩
        { title := "T", plots := [⟨"a.pdf", "A"⟩] } = .ok "T @FOO @\n@TITLE" := by
    rw [render, if_neg (by decide), htext, String.ofList_toList]
  exact ⟨hout, (count_mark_render hout (by decide)).2.1⟩

end Layout

end PlotDeck

import PlotDeck.Proofs.Template.Filling
import PlotDeck.Proofs.Template.Kept
import PlotDeck.Proofs.Template.Value

/-!
# Rendering what has been rendered

A text without placeholders is rendered line by line to itself, except that a line break that does
not follow content is lost. In a **settled** sequence of lines every line break follows content, so
nothing is lost (`keeps_ofText`). What a layout keeps of its lines is settled (`settled_pick`), and
the lines of the rendered text are the kept lines (`AreLines.lines_flatten`). Hence, if nothing but
the slide's own slots marked places in the layout, rendering the text again changes nothing
(`Layout.render_of_render`).
-/

namespace PlotDeck

open Template Text

namespace Template

/-- Whether a slot is filled or erased by every slide. -/
def Slot.isOfSlide : Slot → Bool
  | slideTitle | slideSection | topText | bottomText | plotCaption _ | plotPath _ => true
  | _ => false

/-! ### Lines without placeholders -/

/-- The line of a text in which there was nothing to fill. -/
def Line.ofText (t : List Char) : Line := ⟨t, false, false⟩

@[simp] theorem Line.isRemoved_ofText (t : List Char) : (ofText t).isRemoved = false := rfl

/-- A placeholder starts with its mark. -/
theorem mem_of_placeholder_mem_lex {t name : List Char} (h : .placeholder name ∈ lex t) :
    '@' ∈ t := by
  rw [← flatMap_text_lex t]
  exact List.mem_flatMap.2 ⟨_, h, List.mem_cons_self⟩

section Fill

variable {value? : Slot → Option (List Char)}

theorem fillLine_of_not_mem {t : List Char} (ht : '@' ∉ t) : fillLine value? t = .ofText t := by
  have hcopy : (lex t).foldl (Filling.add value?) .start
      = Filling.start.write ((lex t).flatMap Token.text) :=
    Filling.foldl_add_of_no_placeholder rfl fun _ h => ht (mem_of_placeholder_mem_lex h)
  rw [fillLine, hcopy, flatMap_text_lex]
  rfl

/-- The line feed of a line stays, whatever is filled in before it. -/
theorem text_fillLine_append_newline (u : List Char) :
    (fillLine value? (u ++ ['\n'])).text = (fillLine value? u).text ++ ['\n'] := by
  rw [fillLine, lex_append_newline_cons, lex_nil, List.foldl_append]
  rfl

/-- Values without line feeds bring none into a line. -/
theorem newline_not_mem_fillLine {u : List Char} (hu : '\n' ∉ u)
    (hvalues : ∀ slot v, value? slot = some v → '\n' ∉ v) : '\n' ∉ (fillLine value? u).text := by
  have hchars : ∀ c ∈ (fillLine value? u).text, c ≠ '\n' := by
    refine Filling.forall_mem_foldl (by simp [Filling.start]) ?_ ?_
    · rintro t ht - c hc rfl
      refine hu ?_
      rw [← flatMap_text_lex u]
      exact List.mem_flatMap.2 ⟨t, ht, hc⟩
    · rintro slot v hv c hc rfl
      exact hvalues slot v hv hc
  exact fun h => hchars _ h rfl

/-- Filled lines are lines. -/
theorem areLines_map_fillLine {ts : List (List Char)} (h : AreLines ts)
    (hvalues : ∀ slot v, value? slot = some v → '\n' ∉ v) :
    AreLines (ts.map fun t => (fillLine value? t).text) := by
  induction h with
  | nil => exact .nil
  | last hu => exact .last (newline_not_mem_fillLine hu hvalues)
  | cons ht _ ih =>
    obtain ⟨u, rfl, hu⟩ := ht
    refine .cons ?_ ih
    exact ⟨_, text_fillLine_append_newline u, newline_not_mem_fillLine hu hvalues⟩

/-- Where every placeholder is a slot that is filled or erased, no mark of a placeholder is left. -/
theorem mark_not_mem_fillLine {t : List Char}
    (hslots : ∀ name, .placeholder name ∈ lex t → ¬Token.Stays value? (.placeholder name))
    (hvalues : ∀ slot v, value? slot = some v → '@' ∉ v) : '@' ∉ (fillLine value? t).text := by
  have hchars : ∀ c ∈ (fillLine value? t).text, c ≠ '@' := by
    refine Filling.forall_mem_foldl (by simp [Filling.start]) (fun tok htok hstays => ?_) ?_
    · cases tok with
      | placeholder name => exact absurd hstays (hslots name htok)
      | newline => simp [Token.text]
      | literal u =>
        rintro c hc rfl
        exact absurd (isLiteralChar_of_mem_lex htok _ hc) (by decide)
    · rintro slot v hv c hc rfl
      exact hvalues slot v hv hc
  exact fun h => hchars _ h rfl

end Fill

/-! ### Line breaks that follow content -/

/-- Lines are **settled** when every line break among them follows content; the Boolean says whether
content stands before the first of them. -/
inductive Settled : Bool → List (List Char) → Prop
  /-- No lines. -/
  | nil {after : Bool} : Settled after []
  /-- A line break after content. -/
  | lineBreak {t : List Char} {ts : List (List Char)} (ht : (Line.ofText t).isBreak = true)
    (hts : Settled false ts) : Settled true (t :: ts)
  /-- Any other line. -/
  | other {after : Bool} {t : List Char} {ts : List (List Char)}
    (ht : (Line.ofText t).isBreak = false) (hts : Settled (Line.ofText t).endsContent ts) :
    Settled after (t :: ts)

namespace Settled

variable {after : Bool} {ts : List (List Char)}

/-- More content before the lines does no harm. -/
theorem mono (h : Settled false ts) : Settled after ts := by
  cases h with
  | nil => exact .nil
  | other ht hts => exact .other ht hts

/-- Empty lines can be left out. -/
theorem filter_ne_nil (h : Settled after ts) : Settled after (ts.filter (· ≠ [])) := by
  induction h with
  | nil => exact .nil
  | @lineBreak t ts ht _ ih =>
    have hne : t ≠ [] := by
      rintro rfl
      cases ht
    rw [List.filter_cons_of_pos (by simpa using hne)]
    exact .lineBreak ht ih
  | @other after t ts ht _ ih =>
    by_cases hnil : t = []
    · -- an empty line is no content, so what follows it is settled without it
      subst hnil
      rw [List.filter_cons_of_neg (by simp)]
      exact Settled.mono ih
    · rw [List.filter_cons_of_pos (by simpa using hnil)]
      exact .other ht ih

end Settled

/-- What stays of any lines is settled. -/
theorem settled_pick (after : Bool) (ls : List Line) :
    Settled after (pick (keeps after ls) (ls.map Line.text)) := by
  induction ls generalizing after with
  | nil => exact .nil
  | cons l ls ih =>
    cases hr : l.isRemoved with
    | true =>
      rw [keeps_cons_of_removed hr]
      exact ih after
    | false =>
      cases hb : l.isBreak with
      | false =>
        rw [keeps_cons_of_kept hr hb]
        exact .other hb (ih l.endsContent)
      | true =>
        rw [keeps_cons_of_break hr hb]
        cases hkept : after && !losesBreak false ls with
        | false => exact (ih false).mono
        | true =>
          obtain ⟨rfl, -⟩ := Bool.and_eq_true_iff.1 hkept
          exact .lineBreak hb (ih false)

theorem losesBreak_ofText (ts : List (List Char)) :
    losesBreak false (ts.map Line.ofText) = false := by
  induction ts with
  | nil => rfl
  | cons t ts ih => simp [losesBreak, ih]

/-- Settled lines without placeholders all stay. -/
theorem keeps_ofText {after : Bool} {ts : List (List Char)} (h : Settled after ts) :
    keeps after (ts.map Line.ofText) = List.replicate ts.length true := by
  induction h with
  | nil => rfl
  | lineBreak ht _ ih =>
    rw [List.map_cons, keeps_cons_of_break rfl ht, losesBreak_ofText, ih]
    rfl
  | other ht _ ih =>
    rw [List.map_cons, keeps_cons_of_kept rfl ht, ih]
    rfl

theorem pick_replicate_true {α : Type} (xs : List α) :
    pick (List.replicate xs.length true) xs = xs := by
  induction xs with
  | nil => rfl
  | cons x xs ih => rw [List.length_cons, List.replicate_succ, pick_cons_true, ih]

theorem collapse_ofText {ts : List (List Char)} (h : Settled false ts) :
    collapse (ts.map Line.ofText) = ts.flatten := by
  have htexts : (ts.map Line.ofText).map Line.text = ts := by
    rw [List.map_map]
    exact List.map_id ts
  rw [collapse_eq_flatten_pick, keeps_ofText h, htexts, pick_replicate_true]

end Template

/-! ### Rendered texts -/

namespace Layout

variable {l : Layout} {s : Slide} {out : String}

/-- A text without placeholders whose lines are settled is rendered to itself. -/
theorem render_of_settled {text : String} (hmark : '@' ∉ text.toList)
    (hsettled : Settled false (lines text.toList)) (name : String) {capacity : Nat}
    (h : s.plots.length ≤ capacity) : Layout.render ⟨name, capacity, text⟩ s = .ok text := by
  have hfill : Layout.fill ⟨name, capacity, text⟩ s = (lines text.toList).map Line.ofText := by
    refine List.map_congr_left fun line hline => fillLine_of_not_mem fun hmem => hmark ?_
    rw [← flatten_lines text.toList]
    exact List.mem_flatten.2 ⟨line, hline, hmem⟩
  rw [render, if_neg (Nat.not_lt.2 h), hfill, collapse_ofText hsettled, flatten_lines,
    String.ofList_toList]

/-- Without line feeds in the slide, the texts of the kept lines are lines. -/
theorem areLines_keptLines (l : Layout) (hfeed : ∀ t ∈ s.strings, '\n' ∉ t.toList) :
    AreLines ((l.keptLines s).map (l.lineText s)) := by
  have hvalues : ∀ slot v, s.value? slot = some v → '\n' ∉ v := fun slot v hv => by
    rcases Slide.value?_cases hv with rfl | ⟨t, ht, rfl⟩
    · exact List.not_mem_nil
    · exact hfeed t ht
  have hall : AreLines ((l.fill s).map Line.text) := by
    rw [fill, List.map_map]
    exact areLines_map_fillLine (.lines _) hvalues
  rw [← pick_texts]
  exact hall.sublist (pick_sublist (keeps false (l.fill s)) _)

/-- They are the lines of the rendered text, except that an empty last line is none. -/
theorem lines_of_render (hout : l.render s = .ok out) (hfeed : ∀ t ∈ s.strings, '\n' ∉ t.toList) :
    lines out.toList = ((l.keptLines s).map (l.lineText s)).filter (· ≠ []) := by
  rw [(render_eq_ok_iff.1 hout).2, (areLines_keptLines l hfeed).lines_flatten]

/-- Where all placeholders are slots of a slide, no mark of a placeholder is left. -/
theorem mark_not_mem_render (hout : l.render s = .ok out)
    (hslots : ∀ name, .placeholder name ∈ lex l.source.toList →
      ∃ slot, Slot.ofName? name = some slot ∧ slot.isOfSlide = true)
    (hmarks : ∀ t ∈ s.strings, '@' ∉ t.toList) : '@' ∉ out.toList := by
  intro hmem
  rw [toList_of_render hout] at hmem
  obtain ⟨line, hline, hmem⟩ := List.mem_flatMap.1 hmem
  refine mark_not_mem_fillLine (fun name hname hstays => ?_) (fun slot v hv => ?_) hmem
  · have hname : .placeholder name ∈ lex l.source.toList := by
      rw [← flatMap_lex_lines]
      exact List.mem_flatMap.2 ⟨line, mem_lines_of_mem_keptSources hline, hname⟩
    obtain ⟨slot, hslot, hslide⟩ := hslots name hname
    obtain ⟨hnone, hplot⟩ := hstays slot hslot
    cases slot <;> simp_all [Slot.isOfSlide, Slot.isPlot, Slide.value?]
  · rcases Slide.value?_cases hv with rfl | ⟨t, ht, rfl⟩
    · exact List.not_mem_nil
    · exact hmarks t ht

/-- **Fixed points**: if all placeholders of a layout are slots of a slide, and the strings of a
slide hold neither the mark of a placeholder nor a line feed, then the text that the slide is
rendered to is rendered to itself, whatever its capacity as a layout and whichever slide it is given
that fits. -/
theorem render_of_render (hout : l.render s = .ok out)
    (hslots : ∀ name, .placeholder name ∈ lex l.source.toList →
      ∃ slot, Slot.ofName? name = some slot ∧ slot.isOfSlide = true)
    (hs : ∀ t ∈ s.strings, '@' ∉ t.toList ∧ '\n' ∉ t.toList) (name : String) (capacity : Nat)
    (s' : Slide) (h : s'.plots.length ≤ capacity) :
    Layout.render ⟨name, capacity, out⟩ s' = .ok out := by
  have hmark := mark_not_mem_render hout hslots fun t ht => (hs t ht).1
  have hlines := lines_of_render hout fun t ht => (hs t ht).2
  refine render_of_settled hmark ?_ name h
  rw [hlines, ← pick_texts]
  exact (settled_pick false (l.fill s)).filter_ne_nil

/-- A line break before a plot that is missing stays, and so does the text; the last line, which is
left empty, is none. -/
theorem render_of_render_missing_plot :
    Layout.render ⟨"custom", 2, "@PLOT1TITLE\n\\\\\n@PLOT1\n\\\\\n@PLOT2\n@TOPTEXT"⟩
        { title := "T", plots := [⟨"a.pdf", "A"⟩] } = .ok "A\n\\\\\na.pdf\n\\\\\n" ∧
    Layout.render ⟨"again", 0, "A\n\\\\\na.pdf\n\\\\\n"⟩ { title := "U" }
      = .ok "A\n\\\\\na.pdf\n\\\\\n" := by
  have htext : collapse (Layout.fill
      ⟨"custom", 2, "@PLOT1TITLE\n\\\\\n@PLOT1\n\\\\\n@PLOT2\n@TOPTEXT"⟩
        { title := "T", plots := [⟨"a.pdf", "A"⟩] })
      = "A\n\\\\\na.pdf\n\\\\\n".toList := by decide +kernel
  have hout : Layout.render ⟨"custom", 2, "@PLOT1TITLE\n\\\\\n@PLOT1\n\\\\\n@PLOT2\n@TOPTEXT"⟩
      { title := "T", plots := [⟨"a.pdf", "A"⟩] } = .ok "A\n\\\\\na.pdf\n\\\\\n" := by
    rw [render, if_neg (by decide), htext, String.ofList_toList]
  have hlex : lex "@PLOT1TITLE\n\\\\\n@PLOT1\n\\\\\n@PLOT2\n@TOPTEXT".toList
      = [.placeholder "PLOT1TITLE".toList, .newline, .literal "\\\\".toList, .newline,
          .placeholder "PLOT1".toList, .newline, .literal "\\\\".toList, .newline,
          .placeholder "PLOT2".toList, .newline, .placeholder "TOPTEXT".toList] := by decide +kernel
  have hslots : ∀ name ∈ ["PLOT1TITLE".toList, "PLOT1".toList, "PLOT2".toList, "TOPTEXT".toList],
      (Slot.ofName? name).map Slot.isOfSlide = some true := by decide
  refine ⟨hout, render_of_render hout (fun name hname => ?_) (by decide) "again" 0 _ (by decide)⟩
  rw [hlex] at hname
  exact Option.map_eq_some_iff.1 (hslots name (by simpa using hname))

end Layout

end PlotDeck

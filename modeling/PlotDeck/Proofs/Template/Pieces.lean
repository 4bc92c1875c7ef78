import PlotDeck.Proofs.Template.Filling
import PlotDeck.Proofs.Template.Header
import PlotDeck.Template.Render

/-!
# Lines made of pieces

A template line with well-formed directives is a sequence of **pieces**: text, placeholders, and
whole directives of unfilled paths. Its pieces do not show in the tokens that it is cut into: the
header of a directive stands in one literal run with the text before it, and the closing brace in
one with the text behind it. Still each piece contributes on its own (`Filling.addText_piece`), so
the line is filled piece by piece: text stays, placeholders are replaced, erased or left as written,
and directives go, exactly from the command to the closing brace (`fillLine_pieces`).
-/

namespace PlotDeck.Template

open Text (isBlank trimStart)

/-! ### Literal runs -/

/-- What is left once a run has been taken off does not start with a character of the run. -/
theorem eq_false_of_mem_head?_dropWhile {p : Char → Bool} {r : List Char} :
    ∀ c ∈ (r.dropWhile p).head?, p c = false := by
  intro c hc
  have hhead := List.head?_dropWhile_not p r
  rw [Option.mem_def.1 hc] at hhead
  simpa using hhead

/-- The literal run at the start of a text is a token, if it is there. -/
theorem lex_eq_literals_append (r : List Char) :
    lex r = literals (r.takeWhile isLiteralChar) ++ lex (r.dropWhile isLiteralChar) := by
  rw [← lex_literals_append (List.all_eq_true.1 List.all_takeWhile)
    eq_false_of_mem_head?_dropWhile, List.takeWhile_append_dropWhile]

/-- Letters, digits and the underscore lie between the digit zero and the letter z. -/
theorem toNat_of_isNameChar {c : Char} (h : isNameChar c = true) :
    48 ≤ c.toNat ∧ c.toNat ≤ 122 := by
  have hupper : c.isUpper = true → 65 ≤ c.toNat ∧ c.toNat ≤ 90 := fun h =>
    have hval : c.val ≥ 'A'.val ∧ c.val ≤ 'Z'.val := of_decide_eq_true h
    ⟨UInt32.le_iff_toNat_le.1 hval.1, UInt32.le_iff_toNat_le.1 hval.2⟩
  have hlower : c.isLower = true → 97 ≤ c.toNat ∧ c.toNat ≤ 122 := fun h =>
    have hval := Bool.and_eq_true_iff.1 h
    ⟨UInt32.le_iff_toNat_le.1 (of_decide_eq_true hval.1),
      UInt32.le_iff_toNat_le.1 (of_decide_eq_true hval.2)⟩
  have hdigit : c.isDigit = true → 48 ≤ c.toNat ∧ c.toNat ≤ 57 := Char.isDigit_iff_toNat.1
  have hcases : (c.isAlpha = true ∨ c.isDigit = true) ∨ c = '_' := by
    simpa [isNameChar, Char.isAlphanum] using h
  rcases hcases with (halpha | h) | rfl
  · rcases Bool.or_eq_true_iff.1 halpha with h | h
    · have hrange := hupper h
      omega
    · have hrange := hlower h
      omega
  · have hrange := hdigit h
    omega
  · decide

/-- A blank cannot go on with a placeholder's name. -/
theorem isNameChar_eq_false_of_isBlank {c : Char} (hc : isBlank c = true) :
    isNameChar c = false := by
  have hblank : c.toNat ≤ 32 ∨ 133 ≤ c.toNat := by
    simp only [isBlank, Bool.or_eq_true, Bool.and_eq_true, decide_eq_true_eq, beq_iff_eq] at hc
    omega
  rw [Bool.eq_false_iff]
  intro hname
  have hrange := toNat_of_isNameChar hname
  omega

/-! ### Adding text to a line -/

namespace Filling

variable {value? : Slot → Option (List Char)} {f : Filling} {t r : List Char}

/-- Adds the tokens of a text to the line. -/
def addText (value? : Slot → Option (List Char)) (f : Filling) (t : List Char) : Filling :=
  (lex t).foldl (Filling.add value?) f

theorem addText_nil : f.addText value? [] = f := by rw [addText, lex_nil, List.foldl_nil]

/-- A placeholder is added as one token if no name character follows it. -/
theorem addText_placeholder {name : List Char} (hname : ∀ c ∈ name, isNameChar c = true)
    (hr : ∀ c ∈ r.head?, isNameChar c = false) :
    f.addText value? ('@' :: (name ++ r))
      = (f.add value? (.placeholder name)).addText value? r := by
  rw [addText, lex_placeholder_append hname hr, List.foldl_cons, addText]

/-- The rest of a literal run is added like a run of its own. -/
theorem addText_cons {c : Char} (hf : f.closing = false) (hc : c ≠ '@') (r : List Char) :
    f.addText value? (c :: r) = (f.write [c]).addText value? r := by
  by_cases hfeed : c = '\n'
  · rw [hfeed, addText, lex_newline_cons]
    rfl
  · rw [addText, addText, lex, if_neg hc, if_neg hfeed, lex_eq_literals_append r, List.foldl_cons,
      List.foldl_append, foldl_add_literals rfl, write_write]
    simp [add, hf]

/-- Text without placeholders is copied, wherever its literal runs end. -/
theorem addText_append (hf : f.closing = false) (ht : '@' ∉ t) (r : List Char) :
    f.addText value? (t ++ r) = (f.write t).addText value? r := by
  induction t generalizing f with
  | nil => rw [List.nil_append, write_nil hf]
  | cons c t ih =>
    obtain ⟨hc, ht⟩ : '@' ≠ c ∧ '@' ∉ t := by simpa using ht
    rw [List.cons_append, addText_cons hf (Ne.symm hc), ih rfl ht, write_write,
      List.singleton_append]

/-- The closing brace of a directive that was cut goes with the blanks before it, and nothing else
of the literal run that it stands in. -/
theorem addText_closing {w : List Char} (hf : f.closing = true)
    (hw : ∀ c ∈ w, isBlank c = true ∧ c ≠ '\n') (r : List Char) :
    f.addText value? (w ++ '\x7d' :: r) = (f.write []).addText value? r := by
  have hliteral : ∀ c ∈ w ++ '\x7d' :: r.takeWhile isLiteralChar, isLiteralChar c = true := by
    refine List.forall_mem_append.2 ⟨fun c hc => ?_,
      List.forall_mem_cons.2 ⟨by decide, List.all_eq_true.1 List.all_takeWhile⟩⟩
    have hmark : c ≠ '@' := by
      rintro rfl
      exact absurd (hw _ hc).1 (by decide)
    simp [isLiteralChar, hmark, (hw c hc).2]
  have hlex : lex (w ++ '\x7d' :: r)
      = .literal (w ++ '\x7d' :: r.takeWhile isLiteralChar) :: lex (r.dropWhile isLiteralChar) := by
    rw [← lex_literal_append (by simp) hliteral eq_false_of_mem_head?_dropWhile, List.append_assoc,
      List.cons_append, List.takeWhile_append_dropWhile]
  have hafter : afterClosing (w ++ '\x7d' :: r.takeWhile isLiteralChar)
      = r.takeWhile isLiteralChar := by
    rw [afterClosing, trimStart, List.dropWhile_append_of_pos fun c hc => (hw c hc).1,
      List.dropWhile_cons_of_neg (by decide)]
    rfl
  calc f.addText value? (w ++ '\x7d' :: r)
      = (f.write (r.takeWhile isLiteralChar)).addText value? (r.dropWhile isLiteralChar) := by
        rw [addText, hlex, List.foldl_cons, addText]
        simp [add, hf, hafter]
    _ = (f.write []).addText value? r := by
        rw [addText, addText, lex_eq_literals_append r, List.foldl_append, foldl_add_literals rfl,
          write_write, List.nil_append]

end Filling

/-! ### Directives -/

/-- An embed directive for a plot, as it can be written in a template. -/
structure Directive where
  /-- What stands between the command and the brace of the path. -/
  header : List Char
  /-- The blanks before the placeholder. -/
  before : List Char
  /-- The number of the plot, counted from 1. -/
  plot : Nat
  /-- The blanks behind the placeholder, on the same line. -/
  after : List Char
  isHeader : IsHeader header
  mark_not_mem : '@' ∉ header
  isBlank_before : ∀ c ∈ before, isBlank c = true
  hasName : (Slot.plotPath plot).HasName
  isBlank_after : ∀ c ∈ after, isBlank c = true ∧ c ≠ '\n'

namespace Directive

/-- The directive up to its placeholder. -/
def opening (d : Directive) : List Char := embedCommand ++ d.header ++ '\x7b' :: d.before

/-- The directive as it is written. -/
def source (d : Directive) : List Char :=
  d.opening ++ '@' :: ((Slot.plotPath d.plot).name ++ (d.after ++ ['\x7d']))

theorem mark_not_mem_opening (d : Directive) : '@' ∉ d.opening := by
  have hcommand : '@' ∉ embedCommand := by decide
  have hbefore : '@' ∉ d.before := fun h => absurd (d.isBlank_before _ h) (by decide)
  simp [opening, hcommand, d.mark_not_mem, hbefore]

/-- Behind the placeholder of a directive, there is no name character. -/
theorem isNameChar_eq_false_of_mem_head? (d : Directive) (r : List Char) :
    ∀ c ∈ (d.after ++ '\x7d' :: r).head?, isNameChar c = false := by
  intro c hc
  cases hafter : d.after with
  | nil =>
    obtain rfl : '\x7d' = c := by simpa [hafter] using hc
    decide
  | cons b w =>
    obtain rfl : b = c := by simpa [hafter] using hc
    exact isNameChar_eq_false_of_isBlank (d.isBlank_after b (hafter ▸ List.mem_cons_self)).1

end Directive

/-- A directive of an unfilled path leaves nothing but the mark that there was a plot slot. -/
theorem Filling.addText_directive {value? : Slot → Option (List Char)} {f : Filling}
    {d : Directive} (hf : f.closing = false) (hd : value? (.plotPath d.plot) = none)
    (r : List Char) :
    f.addText value? (d.source ++ r)
      = ({ f with heldPlot := true }.write []).addText value? r := by
  have hslot := Slot.ofName?_name d.hasName
  have hname : ∀ c ∈ (Slot.plotPath d.plot).name, isNameChar c = true :=
    fun c hc => Slot.isNameChar_of_mem_name hc
  have hcut : cutEmbed? (f.write d.opening).text = some f.text :=
    d.isHeader.cutEmbed?_append d.isBlank_before f.text
  have hsource : d.source ++ r
      = d.opening ++ '@' :: ((Slot.plotPath d.plot).name ++ (d.after ++ '\x7d' :: r)) := by
    simp [Directive.source]
  rw [hsource, addText_append hf d.mark_not_mem_opening,
    addText_placeholder hname (d.isNameChar_eq_false_of_mem_head? r), add_of_cut hslot hd hcut,
    addText_closing rfl d.isBlank_after]
  rfl

/-! ### Pieces -/

/-- A piece of a template line. -/
inductive Piece where
  /-- Text without placeholders. -/
  | text (t : List Char) (ht : '@' ∉ t)
  /-- A placeholder with this name. -/
  | placeholder (name : List Char) (hname : ∀ c ∈ name, isNameChar c = true)
  /-- A whole embed directive. -/
  | directive (d : Directive)

namespace Piece

/-- The piece as it is written. -/
def source : Piece → List Char
  | text t _ => t
  | placeholder name _ => '@' :: name
  | directive d => d.source

/-- Whether the piece holds a plot slot. -/
def holdsPlot : Piece → Bool
  | text _ _ => false
  | placeholder name _ => (Slot.ofName? name).any Slot.isPlot
  | directive _ => true

/-- What the piece contributes to a line that is filled with a slide. -/
def shown (s : Slide) : Piece → List Char
  | text t _ => t
  | placeholder name _ =>
    match Slot.ofName? name with
    | none => '@' :: name
    | some slot =>
      match s.value? slot with
      | some v => v
      | none => if slot.isPlot then [] else '@' :: name
  | directive _ => []

/-- A piece **fits** a slide unless it is an unfilled path without a directive, or a directive whose
path is filled. -/
def Fits (s : Slide) : Piece → Prop
  | text _ _ => True
  | placeholder name _ =>
    ∀ k, Slot.ofName? name = some (.plotPath k) → s.value? (.plotPath k) ≠ none
  | directive d => s.value? (.plotPath d.plot) = none

/-- A piece **ends before** a text that cannot go on with its name. -/
def EndsBefore (r : List Char) : Piece → Prop
  | placeholder _ _ => ∀ c ∈ r.head?, isNameChar c = false
  | _ => True

end Piece

/-- No placeholder among these pieces is directly followed by a name character. -/
def PlaceholdersEnd : List Piece → Prop
  | [] => True
  | p :: ps => p.EndsBefore (ps.flatMap Piece.source) ∧ PlaceholdersEnd ps

namespace Filling

variable {s : Slide} {f : Filling} {p : Piece} {ps : List Piece}

/-- Adds what a piece contributes. -/
def addPiece (s : Slide) (f : Filling) (p : Piece) : Filling :=
  { f with heldPlot := f.heldPlot || p.holdsPlot }.write (p.shown s)

theorem add_placeholder {name : List Char} {hname : ∀ c ∈ name, isNameChar c = true}
    (hfits : (Piece.placeholder name hname).Fits s) :
    f.add s.value? (.placeholder name) = f.addPiece s (.placeholder name hname) := by
  have hstep := step_add s.value? f (.placeholder name)
  generalize f.add s.value? (.placeholder name) = f' at hstep
  cases hstep with
  | value hslot hv => simp [addPiece, Piece.shown, Piece.holdsPlot, hslot, hv]
  | copy _ hstays =>
    cases hslot : Slot.ofName? name with
    | none => simp [addPiece, Piece.shown, Piece.holdsPlot, hslot, Token.text, write]
    | some slot =>
      obtain ⟨hv, hplot⟩ := hstays slot hslot
      simp [addPiece, Piece.shown, Piece.holdsPlot, hslot, hv, hplot, Token.text, write]
  | caption hslot hv => simp [addPiece, Piece.shown, Piece.holdsPlot, hslot, hv, Slot.isPlot]
  | cut hslot hv => exact absurd hv (hfits _ hslot)
  | drop hslot hv => exact absurd hv (hfits _ hslot)

/-- Each piece contributes on its own, whatever text follows it. -/
theorem addText_piece {r : List Char} (hf : f.closing = false) (hfits : p.Fits s)
    (hends : p.EndsBefore r) :
    f.addText s.value? (p.source ++ r) = (f.addPiece s p).addText s.value? r := by
  cases p with
  | text t ht =>
    rw [Piece.source, addText_append hf ht]
    simp [addPiece, Piece.shown, Piece.holdsPlot]
  | placeholder name hname =>
    rw [Piece.source, List.cons_append, addText_placeholder hname hends, add_placeholder hfits]
  | directive d =>
    rw [Piece.source, addText_directive hf hfits]
    simp [addPiece, Piece.shown, Piece.holdsPlot]

/-- A line is filled piece by piece. -/
theorem addText_pieces (hf : f.closing = false) (hfits : ∀ p ∈ ps, p.Fits s)
    (hends : PlaceholdersEnd ps) :
    f.addText s.value? (ps.flatMap Piece.source) = ps.foldl (addPiece s) f := by
  induction ps generalizing f with
  | nil => exact addText_nil
  | cons p ps ih =>
    obtain ⟨hp, hps⟩ := List.forall_mem_cons.1 hfits
    obtain ⟨hend, hends⟩ := hends
    rw [List.flatMap_cons, addText_piece hf hp hend, List.foldl_cons, ih rfl hps hends]

theorem toLine_foldl_addPiece (s : Slide) (ps : List Piece) (f : Filling) :
    (ps.foldl (addPiece s) f).toLine
      = { text := f.text ++ ps.flatMap (Piece.shown s)
          heldPlot := f.heldPlot || ps.any Piece.holdsPlot
          dropped := f.dropped } := by
  induction ps generalizing f with
  | nil => simp
  | cons p ps ih =>
    rw [List.foldl_cons, ih]
    simp [addPiece, write, Bool.or_assoc]

end Filling

/-- **Exact lines**: a line made of text, placeholders and whole directives of unfilled paths is not
dropped, and its text is what its pieces contribute, one after the other. -/
theorem fillLine_pieces {s : Slide} {ps : List Piece} (hfits : ∀ p ∈ ps, p.Fits s)
    (hends : PlaceholdersEnd ps) :
    fillLine s.value? (ps.flatMap Piece.source)
      = { text := ps.flatMap (Piece.shown s)
          heldPlot := ps.any Piece.holdsPlot
          dropped := false } := by
  have hpieces := Filling.addText_pieces (f := .start) rfl hfits hends
  have hline : fillLine s.value? (ps.flatMap Piece.source)
      = (Filling.start.addText s.value? (ps.flatMap Piece.source)).toLine := rfl
  rw [hline, hpieces, Filling.toLine_foldl_addPiece]
  rfl

/-- A directive with all that a header can hold. -/
def crowdedDirective : Directive where
  header := "*<2->[w=1]".toList
  before := [' ']
  plot := 2
  after := [' ']
  isHeader :=
    .options (.overlay (y := "2-".toList) (.star .nil) (by decide)) (x := "w=1".toList) (by decide)
  mark_not_mem := by decide
  isBlank_before := by decide
  hasName := ⟨by decide, by decide⟩
  isBlank_after := by decide

/-- A directive without a header. -/
def bareDirective : Directive where
  header := []
  before := []
  plot := 3
  after := []
  isHeader := .nil
  mark_not_mem := by decide
  isBlank_before := by decide
  hasName := ⟨by decide, by decide⟩
  isBlank_after := by decide

/-- A line with both directives, among filled, erased and unknown placeholders. -/
def crowdedLine : List Piece :=
  [.placeholder "SLIDE_TITLE".toList (by decide), .text [' '] (by decide),
    .directive crowdedDirective, .text ['y'] (by decide), .directive bareDirective,
    .text " \\includegraphics\x7b".toList (by decide), .placeholder "PLOT1".toList (by decide),
    .text ['\x7d'] (by decide), .placeholder "PLOT2TITLE".toList (by decide),
    .placeholder "FOO".toList (by decide), .text [' '] (by decide),
    .placeholder "TITLE".toList (by decide), .text ['\n'] (by decide)]

/-- Two directives go; the title that looks like the start of a third one stays, and so does the
directive of the only plot. -/
theorem fillLine_pieces_of_lookalike :
    fillLine ({ title := "\\includegraphics[", plots := [⟨"a.pdf", "A"⟩] } : Slide).value?
      ("@SLIDE_TITLE \\includegraphics*<2->[w=1]\x7b @PLOT2 \x7d" ++
        "y\\includegraphics\x7b@PLOT3\x7d " ++
        "\\includegraphics\x7b@PLOT1\x7d@PLOT2TITLE@FOO @TITLE\n").toList
    = { text := "\\includegraphics[ y \\includegraphics\x7ba.pdf\x7d@FOO @TITLE\n".toList
        heldPlot := true
        dropped := false } := by
  have hsource : crowdedLine.flatMap Piece.source
      = ("@SLIDE_TITLE \\includegraphics*<2->[w=1]\x7b @PLOT2 \x7d" ++
        "y\\includegraphics\x7b@PLOT3\x7d " ++
          "\\includegraphics\x7b@PLOT1\x7d@PLOT2TITLE@FOO @TITLE\n").toList := by
    decide +kernel
  have hfits : ∀ p ∈ crowdedLine,
      p.Fits { title := "\\includegraphics[", plots := [⟨"a.pdf", "A"⟩] } := by
    have htitle : Slot.ofName? "SLIDE_TITLE".toList = some .slideTitle := by decide
    have hpath : Slot.ofName? "PLOT1".toList = some (.plotPath 1) := by decide
    have hcaption : Slot.ofName? "PLOT2TITLE".toList = some (.plotCaption 2) := by decide
    have hunknown : Slot.ofName? "FOO".toList = none := by decide
    have hfront : Slot.ofName? "TITLE".toList = some .title := by decide
    simp only [crowdedLine, List.forall_mem_cons, Piece.Fits, htitle, hpath, hcaption, hunknown,
      hfront]
    refine ⟨by simp, trivial, rfl, trivial, rfl, trivial, ?_, trivial, by simp, by simp, trivial,
      by simp, trivial, by simp⟩
    rintro k hk
    obtain rfl : 1 = k := by simpa using hk
    decide
  have hends : PlaceholdersEnd crowdedLine := by
    simp only [crowdedLine, PlaceholdersEnd, Piece.EndsBefore]
    decide
  rw [← hsource, fillLine_pieces hfits hends]
  decide +kernel

end PlotDeck.Template

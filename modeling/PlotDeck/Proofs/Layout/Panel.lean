import PlotDeck.Proofs.Layout.Row
import PlotDeck.Proofs.Template.Collapse
import PlotDeck.Proofs.Template.Value

/-!
# Panels and stacks

Which lines of a stack of panels stay. A panel whose plot the slide holds keeps its image; it keeps
its caption unless that is blank or a bare line break, and the line break below the caption unless
the caption opens an environment (`Slide.panelMarks`). A panel without a plot goes as a whole, and
with it the line break before it. `settles_stack` says so for every stack whose plots ascend,
whatever the captions hold.
-/

namespace PlotDeck

open Template Text

/-! ### How a caption reads -/

/-- Whether the caption is neither blank nor a bare line break. -/
def Plot.captionStays (p : Plot) : Bool :=
  trim p.caption.toList != [] && trim p.caption.toList != Template.lineBreak

/-- Whether the caption starts like a line that opens an environment. -/
def Plot.captionOpens (p : Plot) : Bool := beginMark.isPrefixOf (trim p.caption.toList)

/-! ### The rows of a stack -/

/-- A width can stand in the options of an image. -/
structure IsWidth (width : String) : Prop where
  /-- It is literal text. -/
  literal : ∀ c ∈ width.toList, isLiteralChar c = true
  /-- It opens no further group of options. -/
  noBracket : '[' ∉ width.toList
  /-- It does not hold another image. -/
  noImage : ¬embedCommand <:+: width.toList

/-- A plot number can be written. -/
def IsIndex (k : Nat) : Prop := 0 < k ∧ k ≤ Slot.maxIndex

namespace Builtin

variable {s : Slide} {k : Nat} {width : String} {p : Plot}

theorem toList_imageOpening (width : String) : (imageOpening width).toList
    = "\\includegraphics[width=".toList ++ width.toList ++ "]\x7b".toList := by
  change ("\\includegraphics[width=" ++ width ++ "]\x7b").toList = _
  rw [String.toList_append, String.toList_append]

theorem readsBack_plain {t : String} (ht : ∀ c ∈ t.toList, isLiteralChar c = true) :
    (plain t).ReadsBack where
  before := ht
  after := by simp [plain]
  boundary := by simp [plain]
  named := by simp [plain]

theorem readsBack_caption (hk : IsIndex k) : (caption k).ReadsBack where
  before := by simp [caption]
  after := by simp [caption]
  boundary := by simp [caption]
  named := by
    rintro slot ⟨⟩
    exact hk

theorem readsBack_image (hk : IsIndex k) (hw : IsWidth width) : (image width k).ReadsBack where
  before := by
    have hcommand : ∀ c ∈ "\\includegraphics[width=".toList, isLiteralChar c = true := by decide
    have hbrace : ∀ c ∈ "]\x7b".toList, isLiteralChar c = true := by decide
    intro c hc
    rw [image, toList_imageOpening, List.mem_append, List.mem_append] at hc
    rcases hc with (hc | hc) | hc
    · exact hcommand c hc
    · exact hw.literal c hc
    · exact hbrace c hc
  after := (by decide : ∀ c ∈ "\x7d".toList, isLiteralChar c = true)
  boundary := (by decide : ∀ c ∈ "\x7d".toList.head?, isNameChar c = false)
  named := by
    rintro slot ⟨⟩
    exact hk

theorem fill_plain {t : String} (ht : ∀ c ∈ t.toList, isLiteralChar c = true) :
    (plain t).fill s = ⟨t.toList ++ ['\n'], false, false⟩ :=
  Row.fill_plain (readsBack_plain ht) rfl rfl

theorem fill_caption_some (hk : IsIndex k) (hp : s.plot? k = some p) :
    (caption k).fill s = ⟨p.caption.toList ++ ['\n'], true, false⟩ := by
  have hv : s.value? (.plotCaption k) = some p.caption.toList := by
    rw [s.value?_plotCaption hk.1, hp, Option.map_some]
  rw [Row.fill_value (readsBack_caption hk) rfl hv]
  simp [caption, Slot.isPlot]

theorem fill_caption_none (hk : IsIndex k) (hp : s.plot? k = none) :
    (caption k).fill s = ⟨['\n'], true, false⟩ := by
  have hv : s.value? (.plotCaption k) = none := by
    rw [s.value?_plotCaption hk.1, hp, Option.map_none]
  rw [Row.fill_caption (readsBack_caption hk) rfl hv]
  rfl

theorem fill_image_some (hk : IsIndex k) (hw : IsWidth width) (hp : s.plot? k = some p) :
    (image width k).fill s
      = ⟨(imageOpening width).toList ++ p.path.toList ++ ['\x7d', '\n'], true, false⟩ := by
  have hv : s.value? (.plotPath k) = some p.path.toList := by
    rw [s.value?_plotPath hk.1, hp, Option.map_some]
  rw [Row.fill_value (readsBack_image hk hw) rfl hv]
  simp [image, Slot.isPlot]

theorem fill_image_none (hk : IsIndex k) (hw : IsWidth width) (hp : s.plot? k = none) :
    (image width k).fill s = ⟨['\n'], true, false⟩ := by
  have hv : s.value? (.plotPath k) = none := by
    rw [s.value?_plotPath hk.1, hp, Option.map_none]
  have hopen : (imageOpening width).toList
      = [] ++ embedCommand ++ '[' :: ("width=".toList ++ width.toList) ++ [']', '\x7b'] :=
    toList_imageOpening width
  have hbracket : '[' ∉ "width=".toList ++ width.toList := by
    rw [List.mem_append, not_or]
    exact ⟨by decide, hw.noBracket⟩
  have hcut : cutEmbed? (imageOpening width).toList = some [] := by
    rw [hopen]
    exact cutEmbed?_options hbracket []
  rw [Row.fill_image (readsBack_image hk hw) rfl rfl hcut hv, List.nil_append]

theorem fill_lineBreak : lineBreak.fill s = ⟨['\\', '\\', '\n'], false, false⟩ :=
  fill_plain (by decide)

theorem fill_closing_center :
    (closing "center").fill s = ⟨"\\end\x7bcenter\x7d\n".toList, false, false⟩ :=
  fill_plain (by decide)

theorem fill_opening_center :
    (opening "center" "").fill s = ⟨"\\begin\x7bcenter\x7d\n".toList, false, false⟩ :=
  fill_plain (by decide)

/-! ### How the rows of a panel are judged -/

theorem isBreak_lineBreak : (lineBreak.fill s).isRemoved = false ∧ (lineBreak.fill s).isBreak := by
  rw [fill_lineBreak]
  decide

/-- An image line starts with its command, whatever its path says. -/
theorem kept_image (hk : IsIndex k) (hw : IsWidth width) (hp : s.plot? k = some p) :
    ((image width k).fill s).isRemoved = false ∧ ((image width k).fill s).isBreak = false ∧
      ((image width k).fill s).endsContent = true ∧ ((image width k).fill s).closes = false := by
  have htrim : ∃ t, trim ((image width k).fill s).text = '\\' :: 'i' :: t := by
    rw [fill_image_some hk hw hp, toList_imageOpening]
    exact ⟨_, trim_append (p := ['\\', 'i']) (by decide) (by decide) _⟩
  -- two characters are enough to tell the line from a break and from both marks
  obtain ⟨t, ht⟩ := htrim
  have hdropped : ((image width k).fill s).dropped = false := by
    rw [fill_image_some hk hw hp]
  have hopens : beginMark.isPrefixOf ('\\' :: 'i' :: t) = false := rfl
  have hcloses : endMark.isPrefixOf ('\\' :: 'i' :: t) = false := rfl
  simp [Line.isRemoved, Line.isBreak, Line.endsContent, Line.isBlank, Line.opens, Line.closes, ht,
    hdropped, hopens, hcloses, Template.lineBreak]

theorem isRemoved_image (hk : IsIndex k) (hw : IsWidth width) (hp : s.plot? k = none) :
    ((image width k).fill s).isRemoved = true := by
  rw [fill_image_none hk hw hp]
  decide

theorem isRemoved_caption (hk : IsIndex k) (hp : s.plot? k = none) :
    ((caption k).fill s).isRemoved = true := by
  rw [fill_caption_none hk hp]
  decide

/-- A caption that stays is content unless it opens an environment. -/
theorem settles_caption_stays (hk : IsIndex k) (hp : s.plot? k = some p)
    (h : p.captionStays = true) (a : Bool) :
    Settles a [(caption k).fill s] [true] (!p.captionOpens) := by
  obtain ⟨hblank, hbreak⟩ :
      trim p.caption.toList ≠ [] ∧ trim p.caption.toList ≠ Template.lineBreak := by
    simpa [Plot.captionStays] using h
  have hline := fill_caption_some hk hp
  have hends : ((caption k).fill s).endsContent = !p.captionOpens := by
    simp [hline, Line.endsContent, Line.isBlank, Line.opens, trim_append_newline, hblank,
      Plot.captionOpens]
  rw [← hends]
  refine Settles.of_kept ?_ ?_ a
  · simp [hline, Line.isRemoved, trim_append_newline, hblank]
  · simp [hline, Line.isBreak, trim_append_newline, hbreak]

/-- A caption that does not stay leaves no trace at the start of a panel. -/
theorem settles_caption_goes (hk : IsIndex k) (hp : s.plot? k = some p)
    (h : p.captionStays = false) : Settles false [(caption k).fill s] [false] false := by
  have hline := fill_caption_some hk hp
  -- a blank caption is removed; a bare break goes because no content stands before it
  by_cases hblank : trim p.caption.toList = []
  · refine Settles.of_removed ?_ false
    simp [hline, Line.isRemoved, trim_append_newline, hblank]
  · have hbreak : trim p.caption.toList = Template.lineBreak := by
      simpa [Plot.captionStays, hblank] using h
    refine Settles.of_break ?_ ?_
    · simp [hline, Line.isRemoved, trim_append_newline, hblank]
    · simp [hline, Line.isBreak, trim_append_newline, hbreak]

end Builtin

/-! ### Marks of a stack -/

/-- Which of the three lines of a panel stay. -/
def Slide.panelMarks (s : Slide) (k : Nat) : List Bool :=
  match s.plot? k with
  | some p => [p.captionStays, p.captionStays && !p.captionOpens, true]
  | none => [false, false, false]

/-- Which lines of a stack stay after the line that opens it. -/
def Slide.stackMarks (s : Slide) (breakAfter : Bool) : List Nat → List Bool
  | [] => (if breakAfter then [false] else []) ++ [true]
  | [k] => s.panelMarks k ++ (if breakAfter then [(s.plot? k).isSome] else []) ++ [true]
  | k :: k' :: ks => s.panelMarks k ++ (s.plot? k').isSome :: s.stackMarks breakAfter (k' :: ks)

namespace Builtin

variable {s : Slide} {k : Nat} {width : String} {p : Plot}

theorem settles_panel_some (hk : IsIndex k) (hw : IsWidth width) (hp : s.plot? k = some p) :
    Settles false ((panel width k).map (Row.fill s)) (s.panelMarks k) true := by
  obtain ⟨hremoved, hbreak, hends, hcloses⟩ := kept_image hk hw hp
  obtain ⟨hremoved', hbreak'⟩ := isBreak_lineBreak (s := s)
  have himage : Settles false [(image width k).fill s] [true] true :=
    hends ▸ Settles.of_kept hremoved hbreak false
  have hlose : ∀ rest, losesBreak false ([(image width k).fill s] ++ rest) = false := by
    simp [losesBreak, hremoved, hbreak]
  have hbreaks : ∀ a, Settles a [lineBreak.fill s, (image width k).fill s] [a, true] true :=
    fun a => by simpa using Settles.of_break_append hremoved' hbreak' hlose himage a
  simp only [Slide.panelMarks, hp, panel, List.map_cons, List.map_nil]
  by_cases hstays : p.captionStays = true
  · rw [hstays, Bool.true_and]
    exact (settles_caption_stays hk hp hstays false).append (hbreaks _)
  · have hstays : p.captionStays = false := by simpa using hstays
    rw [hstays, Bool.false_and]
    exact (settles_caption_goes hk hp hstays).append (hbreaks _)

theorem settles_panel_none (hk : IsIndex k) (hw : IsWidth width) (hp : s.plot? k = none) :
    Settles false ((panel width k).map (Row.fill s)) (s.panelMarks k) false := by
  obtain ⟨hremoved', hbreak'⟩ := isBreak_lineBreak (s := s)
  simp only [Slide.panelMarks, hp, panel, List.map_cons, List.map_nil]
  have hcaption := Settles.of_removed (isRemoved_caption hk hp) false
  have himage := Settles.of_removed (isRemoved_image hk hw hp) false
  exact hcaption.append ((Settles.of_break hremoved' hbreak').append himage)

theorem settles_panel (hk : IsIndex k) (hw : IsWidth width) :
    Settles false ((panel width k).map (Row.fill s)) (s.panelMarks k) (s.plot? k).isSome := by
  cases hp : s.plot? k with
  | some p => exact settles_panel_some hk hw hp
  | none => exact settles_panel_none hk hw hp

end Builtin

end PlotDeck

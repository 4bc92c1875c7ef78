import Mathlib.Data.List.Infix
import PlotDeck.Proofs.Layout.Stack

/-!
# The built-in layouts as frames

Every built-in layout is a frame around a **middle part** made of rows without slots, of stacks and,
where there is no room for plots, of a caption that is never filled. `exists_hasMiddle` gives the
middle part of each layout together with its plots, column by column. What holds of all middle
parts, by induction on how they are made, thereby holds of all built-in layouts.
-/

namespace PlotDeck

open Template Text

/-! ### Middle parts -/

/-- The text of a row without slots. -/
structure IsPlain (t : String) : Prop where
  /-- It is literal text. -/
  literal : ∀ c ∈ t.toList, isLiteralChar c = true
  /-- It is no line break. -/
  noBreak : trim t.toList ≠ Template.lineBreak
  /-- It holds no image. -/
  noImage : ¬embedCommand <:+: t.toList

/-- The rows between the head and the foot of a frame, and the plots that they place. -/
inductive Middle (capacity : Nat) (width : String) : List Nat → List Row → Prop
  /-- The middle part ends with a row of content. -/
  | last {t : String} (ht : IsPlain t)
    (hends : Line.endsContent ⟨t.toList ++ ['\n'], false, false⟩) :
    Middle capacity width [] [Builtin.plain t]
  /-- The middle part ends with a stack. -/
  | lastStack {plots : List Nat} (breakAfter : Bool) (hplots : IsColumn plots) :
    Middle capacity width plots (Builtin.stack width plots breakAfter)
  /-- A row without slots. -/
  | plain {t : String} {plots : List Nat} {rows : List Row} (ht : IsPlain t)
    (h : Middle capacity width plots rows) : Middle capacity width plots (Builtin.plain t :: rows)
  /-- A caption that no slide fills. -/
  | spare {k : Nat} {plots : List Nat} {rows : List Row} (hk : IsIndex k) (hlt : capacity < k)
    (h : Middle capacity width plots rows) : Middle capacity width plots (Builtin.caption k :: rows)
  /-- A stack. -/
  | stack {column plots : List Nat} {rows : List Row} (breakAfter : Bool)
    (hcolumn : IsColumn column) (h : Middle capacity width plots rows) :
    Middle capacity width (column ++ plots) (Builtin.stack width column breakAfter ++ rows)

namespace Builtin

variable {s : Slide} {capacity : Nat} {width : String} {plots : List Nat} {rows : List Row}

theorem isPlain_of_decide {t : String} (h : (∀ c ∈ t.toList, isLiteralChar c = true) ∧
    trim t.toList ≠ Template.lineBreak ∧ ¬embedCommand <:+: t.toList) : IsPlain t :=
  ⟨h.1, h.2.1, h.2.2⟩

/-- The plot numbers of the built-in layouts are small. -/
theorem isColumn_of_decide {ks : List Nat} (h : (∀ k ∈ ks, 0 < k ∧ k ≤ 10) ∧ ks.Pairwise (· < ·)) :
    IsColumn ks where
  index := fun k hk => ⟨(h.1 k hk).1, Nat.le_trans (h.1 k hk).2 (by decide)⟩
  ascending := h.2

theorem isColumn_singleton (k : Nat) (h : 0 < k ∧ k ≤ 10 := by decide) : IsColumn [k] :=
  isColumn_of_decide (by simpa using h)

/-! ### The rows of a middle part -/

/-- A row of a middle part. -/
inductive IsRow (width : String) : Row → Prop
  /-- A row without slots. -/
  | plain {t : String} (ht : ∀ c ∈ t.toList, isLiteralChar c = true) : IsRow width (Builtin.plain t)
  /-- A caption. -/
  | caption {k : Nat} (hk : IsIndex k) : IsRow width (Builtin.caption k)
  /-- An image. -/
  | image {k : Nat} (hk : IsIndex k) : IsRow width (Builtin.image width k)

theorem isRow_panel {k : Nat} (hk : IsIndex k) : ∀ r ∈ panel width k, IsRow width r := by
  intro r hr
  simp only [panel, List.mem_cons, List.not_mem_nil, or_false] at hr
  rcases hr with rfl | rfl | rfl
  · exact .caption hk
  · exact .plain (by decide)
  · exact .image hk

theorem isRow_stack {breakAfter : Bool} {column : List Nat} (hc : IsColumn column) :
    ∀ r ∈ stack width column breakAfter, IsRow width r := by
  have hend : ∀ r ∈ stackBody width breakAfter [], IsRow width r := by
    intro r hr
    rw [stackBody_nil, List.mem_append, List.mem_singleton] at hr
    rcases hr with hr | rfl
    · cases breakAfter with
      | false => simp at hr
      | true =>
        obtain rfl : r = lineBreak := by simpa using hr
        exact .plain (by decide)
    · exact .plain (by decide)
  have hbody : ∀ r ∈ stackBody width breakAfter column, IsRow width r := by
    induction column with
    | nil => exact hend
    | cons k ks ih =>
      have hpanel : ∀ r ∈ panel width k, IsRow width r :=
        isRow_panel (hc.index k List.mem_cons_self)
      cases ks with
      | nil =>
        rw [stackBody_singleton]
        exact List.forall_mem_append.2 ⟨hpanel, hend⟩
      | cons k' ks =>
        rw [stackBody_cons_cons]
        exact List.forall_mem_append.2
          ⟨hpanel, List.forall_mem_cons.2 ⟨.plain (by decide), ih hc.tail⟩⟩
  rw [stack_eq_cons]
  exact List.forall_mem_cons.2 ⟨.plain (by decide), hbody⟩

theorem isRow_of_middle (h : Middle capacity width plots rows) : ∀ r ∈ rows, IsRow width r := by
  induction h with
  | last ht => simpa using IsRow.plain ht.literal
  | lastStack breakAfter hplots => exact isRow_stack hplots
  | plain ht _ ih => exact List.forall_mem_cons.2 ⟨.plain ht.literal, ih⟩
  | spare hk _ _ ih => exact List.forall_mem_cons.2 ⟨.caption hk, ih⟩
  | stack breakAfter hcolumn _ ih => exact List.forall_mem_append.2 ⟨isRow_stack hcolumn, ih⟩

theorem IsRow.newline_not_mem {r : Row} (hw : IsWidth width) (h : IsRow width r) :
    '\n' ∉ r.source.toList := by
  cases h with
  | plain ht => exact (readsBack_plain ht).newline_not_mem fun _ => rfl
  | caption hk => exact (readsBack_caption hk).newline_not_mem (by simp [Builtin.caption])
  | image hk => exact (readsBack_image hk hw).newline_not_mem (by simp [Builtin.image])

/-! ### The middle part of each built-in layout -/

/-- The number of columns of the built-in layout with this capacity. -/
def columnCount (capacity : Nat) : Nat := if capacity ≤ 3 then capacity else capacity / 2

/-- The width of the images of the built-in layout with this capacity. -/
def imageWidth (capacity : Nat) : String :=
  if capacity = 1 then "0.5\\textwidth" else "\\textwidth"

/-- The first `n` plots in the order in which a layout places them: with `m` columns, column `c`
holds plots `c` and `c + m`, and the columns go from left to right. -/
def columnOrder (capacity n : Nat) : List Nat :=
  let m := columnCount capacity
  ((List.range m).flatMap fun c => [c + 1, c + 1 + m]).filter (· ≤ n)

/-- The line that opens a column. -/
def columnOpening (width : String) : Row :=
  opening "column" ("\x7b" ++ width ++ "\\textwidth\x7d")

theorem isPlain_empty : IsPlain "" := isPlain_of_decide (by decide)

theorem isPlain_columns : IsPlain "\\begin\x7bcolumns\x7d" := isPlain_of_decide (by decide)

theorem middle_end : Middle capacity width [] [closing "columns"] :=
  Middle.last (isPlain_of_decide (by decide)) (by decide)

/-- A column environment around a stack. -/
theorem middle_column {column : String} {ks : List Nat} (breakAfter : Bool)
    (hopen : IsPlain (columnOpening column).before)
    (hks : IsColumn ks) (h : Middle capacity "\\textwidth" plots rows) :
    Middle capacity "\\textwidth" (ks ++ plots) (Builtin.column column ks breakAfter ++ rows) := by
  have hclose : IsPlain ("\\end\x7b" ++ "column" ++ "\x7d") := isPlain_of_decide (by decide)
  have hmiddle := Middle.plain hopen (Middle.stack breakAfter hks (Middle.plain hclose h))
  simpa [Builtin.column, environment, columnOpening, opening, closing, Builtin.plain] using hmiddle

/-- Columns with an empty line between them. -/
theorem middle_columns {column : String} {columns : List (List Nat)}
    (hopen : IsPlain (columnOpening column).before)
    (hcolumns : ∀ ks ∈ columns, IsColumn ks) :
    Middle capacity "\\textwidth" columns.flatten
      (List.intercalate [Builtin.plain ""] (columns.map fun ks => Builtin.column column ks false)
        ++ [closing "columns"]) := by
  induction columns with
  | nil => exact middle_end
  | cons ks columns ih =>
    have hks := hcolumns ks List.mem_cons_self
    have ih := ih fun ks' h => hcolumns ks' (List.mem_cons_of_mem ks h)
    cases columns with
    | nil => simpa [List.intercalate] using middle_column false hopen hks middle_end
    | cons ks' columns =>
      simpa [List.intercalate] using middle_column false hopen hks (Middle.plain isPlain_empty ih)

theorem middle_grid {column : String} {m n : Nat}
    (hopen : IsPlain (columnOpening column).before)
    (hcolumns : ∀ ks ∈ gridColumns m n, IsColumn ks) :
    Middle capacity "\\textwidth" (gridColumns m n).flatten (grid column m n) :=
  Middle.plain isPlain_columns (middle_columns hopen hcolumns)

/-- The middle part of a layout with its plots in the order in which the layout places them. -/
structure HasMiddle (l : Layout) (plots : List Nat) (rows : List Row) : Prop where
  /-- The layout is a frame around these rows. -/
  eq_frame : l = frame l.name l.capacity rows
  /-- The rows are a middle part. -/
  middle : Middle l.capacity (imageWidth l.capacity) plots rows
  /-- However many of its plots a slide holds, they are placed in column order. -/
  order : ∀ n ≤ l.capacity, plots.filter (· ≤ n) = columnOrder l.capacity n

theorem hasMiddle_zero : HasMiddle zero [] (centred [caption 1]) where
  eq_frame := rfl
  middle :=
    Middle.plain (isPlain_of_decide (by decide)) (Middle.spare ⟨by decide, by decide⟩ (by decide)
      (Middle.last (isPlain_of_decide (by decide)) (by decide)))
  order := by decide

theorem hasMiddle_one : HasMiddle one [1] (stack "0.5\\textwidth" [1] true) where
  eq_frame := rfl
  middle := Middle.lastStack true (isColumn_of_decide (by decide))
  order := by decide

theorem hasMiddle_two : HasMiddle two [1, 2] (environment "columns" ""
    (column "0.45" [1] true ++ [plain ""] ++ column "0.45" [2] false)) where
  eq_frame := rfl
  middle :=
    have hopen : IsPlain (columnOpening "0.45").before := isPlain_of_decide (by decide)
    have hright := middle_column false hopen (isColumn_singleton 2) middle_end
    Middle.plain isPlain_columns
      (middle_column true hopen (isColumn_singleton 1) (Middle.plain isPlain_empty hright))
  order := by decide

theorem hasMiddle_three : HasMiddle three [1, 2, 3] (environment "columns" ""
    (column "0.33" [1] true ++ column "0.33" [2] true ++ column "0.33" [3] true)) where
  eq_frame := rfl
  middle :=
    have hopen : IsPlain (columnOpening "0.33").before := isPlain_of_decide (by decide)
    have hright := middle_column true hopen (isColumn_singleton 3) middle_end
    have hcentre := middle_column true hopen (isColumn_singleton 2) hright
    Middle.plain isPlain_columns (middle_column true hopen (isColumn_singleton 1) hcentre)
  order := by decide

theorem hasMiddle_grid {name column : String} {capacity m : Nat}
    (hopen : IsPlain (columnOpening column).before)
    (hcolumns : ∀ ks ∈ gridColumns m 2, IsColumn ks)
    (hwidth : imageWidth capacity = "\\textwidth")
    (horder : ∀ n ≤ capacity, (gridColumns m 2).flatten.filter (· ≤ n) = columnOrder capacity n) :
    HasMiddle (frame name capacity (grid column m 2)) (gridColumns m 2).flatten
      (grid column m 2) where
  eq_frame := rfl
  middle := by
    change Middle capacity (imageWidth capacity) _ _
    rw [hwidth]
    exact middle_grid hopen hcolumns
  order := horder

/-- Every built-in layout is a frame around a middle part. -/
theorem exists_hasMiddle {l : Layout} (hl : l ∈ Registry.builtin.layouts) :
    ∃ plots rows, HasMiddle l plots rows := by
  have hgrid : ∀ m ≤ 5, ∀ ks ∈ gridColumns m 2, IsColumn ks := by
    intro m hm ks hks
    have hsmall : ∀ m ≤ 5, ∀ ks ∈ gridColumns m 2,
        (∀ k ∈ ks, 0 < k ∧ k ≤ 10) ∧ ks.Pairwise (· < ·) := by decide
    exact isColumn_of_decide (hsmall m hm ks hks)
  simp only [Registry.layouts_builtin, Builtin.layouts, List.mem_cons, List.not_mem_nil,
    or_false] at hl
  rcases hl with rfl | rfl | rfl | rfl | rfl | rfl | rfl | rfl
  · exact ⟨_, _, hasMiddle_zero⟩
  · exact ⟨_, _, hasMiddle_one⟩
  · exact ⟨_, _, hasMiddle_two⟩
  · exact ⟨_, _, hasMiddle_three⟩
  · have hopen : IsPlain (columnOpening "0.23").before := isPlain_of_decide (by decide)
    exact ⟨_, _, hasMiddle_grid hopen (hgrid 2 (by decide)) rfl (by decide)⟩
  · have hopen : IsPlain (columnOpening "0.22").before := isPlain_of_decide (by decide)
    exact ⟨_, _, hasMiddle_grid hopen (hgrid 3 (by decide)) rfl (by decide)⟩
  · have hopen : IsPlain (columnOpening "0.22").before := isPlain_of_decide (by decide)
    exact ⟨_, _, hasMiddle_grid hopen (hgrid 4 (by decide)) rfl (by decide)⟩
  · have hopen : IsPlain (columnOpening "0.18").before := isPlain_of_decide (by decide)
    exact ⟨_, _, hasMiddle_grid hopen (hgrid 5 (by decide)) rfl (by decide)⟩

end Builtin

/-! ### Which lines of a frame stay -/

/-- Whether the text above the plots is more than a bare line break. -/
def Slide.topStays (s : Slide) : Bool := trim s.top != Template.lineBreak

namespace Builtin

theorem fill_sectionHeading : sectionHeading.fill s
    = ⟨"\\section\x7b".toList ++ s.heading.toList ++ ['\x7d', '\n'], false, false⟩ := by
  have hread : sectionHeading.ReadsBack :=
    ⟨by decide, by decide, by decide, by rintro slot ⟨⟩; trivial⟩
  rw [Row.fill_value hread rfl rfl]
  simp [sectionHeading, Slot.isPlot]

theorem fill_frameOpening : frameOpening.fill s
    = ⟨"\\begin\x7bframe\x7d\x7b".toList ++ s.title.toList ++ ['\x7d', '\n'], false, false⟩ := by
  have hread : frameOpening.ReadsBack :=
    ⟨by decide, by decide, by decide, by rintro slot ⟨⟩; trivial⟩
  rw [Row.fill_value hread rfl rfl]
  simp [frameOpening, Slot.isPlot]

theorem fill_topText : topText.fill s = ⟨s.top ++ ['\n'], false, false⟩ := by
  have hread : topText.ReadsBack :=
    ⟨by decide, by decide, by decide, by rintro slot ⟨⟩; trivial⟩
  rw [Row.fill_value hread rfl rfl]
  simp [topText, Slot.isPlot, Slide.top]

theorem fill_bottomText : bottomText.fill s = ⟨s.bottom ++ ['\n'], false, false⟩ := by
  have hread : bottomText.ReadsBack :=
    ⟨by decide, by decide, by decide, by rintro slot ⟨⟩; trivial⟩
  rw [Row.fill_value hread rfl rfl]
  simp [bottomText, Slot.isPlot, Slide.bottom]

theorem settles_plain {t : String} (ht : IsPlain t) (a : Bool) :
    Settles a [(Builtin.plain t).fill s] [true]
      (Line.endsContent ⟨t.toList ++ ['\n'], false, false⟩) := by
  rw [fill_plain ht.literal]
  refine Settles.of_kept rfl ?_ a
  simp [Line.isBreak, trim_append_newline, ht.noBreak]

/-- The line that opens the frame is no content, so a bare line break above the plots is dropped. -/
theorem settles_head :
    ∃ a, Settles false (head.map (Row.fill s)) [true, true, true, s.topStays] a := by
  have hsection :
      ∃ a, Settles false [(Builtin.plain "").fill s, sectionHeading.fill s] [true, true] a := by
    obtain ⟨t, ht⟩ : ∃ t, trim (sectionHeading.fill s).text = '\\' :: 's' :: t := by
      rw [fill_sectionHeading]
      exact ⟨_, trim_append (p := ['\\', 's']) (by decide) (by decide) _⟩
    refine ⟨_, (settles_plain isPlain_empty false).append (Settles.of_kept ?_ ?_ _)⟩
    · simp [fill_sectionHeading, Line.isRemoved]
    · simp [Line.isBreak, ht, Template.lineBreak]
  have hopening : ∀ a, Settles a [frameOpening.fill s] [true] false := by
    intro a
    obtain ⟨t, ht⟩ : ∃ t, trim (frameOpening.fill s).text = beginMark ++ t := by
      rw [fill_frameOpening]
      exact ⟨_, trim_append (p := beginMark) (by decide) (by decide) _⟩
    have hends : (frameOpening.fill s).endsContent = false := by
      have hmark : beginMark.isPrefixOf (beginMark ++ t) = true :=
        List.isPrefixOf_iff_prefix.2 (List.prefix_append _ _)
      simp [Line.endsContent, Line.opens, ht, hmark]
    have hbreak : (frameOpening.fill s).isBreak = false := by
      have hne : beginMark ++ t ≠ Template.lineBreak := fun h => by
        have htake : ['\\', 'b'] = ['\\', '\\'] := congrArg (List.take 2) h
        exact absurd htake (by decide)
      simp [Line.isBreak, ht, hne]
    rw [← hends]
    exact Settles.of_kept (by simp [fill_frameOpening, Line.isRemoved]) hbreak a
  have htop : ∃ a, Settles false [topText.fill s] [s.topStays] a := by
    have hremoved : (topText.fill s).isRemoved = false := by
      simp [fill_topText, Line.isRemoved]
    have hbreak : (topText.fill s).isBreak = !s.topStays := by
      simp [fill_topText, Line.isBreak, trim_append_newline, Slide.topStays, bne]
    cases hstays : s.topStays with
    | false => exact ⟨_, Settles.of_break hremoved (by simp [hbreak, hstays])⟩
    | true => exact ⟨_, Settles.of_kept hremoved (by simp [hbreak, hstays]) false⟩
  obtain ⟨a, hsection⟩ := hsection
  obtain ⟨b, htop⟩ := htop
  exact ⟨b, (hsection.append (hopening a)).append htop⟩

/-- Behind content, the text below the plots stays whatever it is. -/
theorem settles_foot : Settles true (foot.map (Row.fill s)) [true, true] true := by
  have hplain : IsPlain "\\end\x7bframe\x7d" := isPlain_of_decide (by decide)
  have hfill : (closing "frame").fill s = ⟨"\\end\x7bframe\x7d\n".toList, false, false⟩ :=
    fill_plain hplain.literal
  have hclosing : ∀ a, Settles a [(closing "frame").fill s] [true] true := settles_plain hplain
  have hremoved : (bottomText.fill s).isRemoved = false := by
    simp [fill_bottomText, Line.isRemoved]
  cases hbreak : (bottomText.fill s).isBreak with
  | false => exact (Settles.of_kept hremoved hbreak true).append (hclosing _)
  | true =>
    -- nothing has been removed between the break and the end of the frame
    have hlost : ∀ rest, losesBreak false ([(closing "frame").fill s] ++ rest) = false := by
      intro rest
      rw [hfill]
      rfl
    exact Settles.of_break_append hremoved hbreak hlost (hclosing false) true

/-- No row of a frame holds a line feed, so the lines of the layout are its rows. -/
theorem newline_not_mem_frame (h : Middle capacity width plots rows) (hw : IsWidth width) :
    ∀ r ∈ head ++ rows ++ foot, '\n' ∉ r.source.toList := by
  have hhead : ∀ r ∈ head, '\n' ∉ r.source.toList := by decide
  have hfoot : ∀ r ∈ foot, '\n' ∉ r.source.toList := by decide
  exact List.forall_mem_append.2 ⟨List.forall_mem_append.2
    ⟨hhead, fun r hr => (isRow_of_middle h r hr).newline_not_mem hw⟩, hfoot⟩

/-- A frame is filled row by row. -/
theorem fill_frame {name : String} (h : Middle capacity width plots rows) (hw : IsWidth width) :
    (frame name capacity rows).fill s
      = head.map (Row.fill s) ++ rows.map (Row.fill s) ++ foot.map (Row.fill s) := by
  rw [frame, fill_ofRows (newline_not_mem_frame h hw), List.map_append, List.map_append]

/-- Of a frame, all lines of its head and foot stay but a bare line break above the plots. -/
theorem keeps_frame {name : String} {marks : List Bool} (h : Middle capacity width plots rows)
    (hw : IsWidth width) (hrows : ∀ a, Settles a (rows.map (Row.fill s)) marks true) :
    keeps false ((frame name capacity rows).fill s)
      = [true, true, true, s.topStays] ++ marks ++ [true, true] := by
  obtain ⟨a, hhead⟩ := settles_head (s := s)
  rw [fill_frame h hw]
  exact ((hhead.append (hrows a)).append settles_foot).keeps_eq

theorem isWidth_imageWidth (capacity : Nat) : IsWidth (imageWidth capacity) := by
  rw [imageWidth]
  split <;> exact ⟨by decide, by decide, by decide⟩

end Builtin

end PlotDeck

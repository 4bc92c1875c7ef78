import Mathlib.Data.List.Forall2
import PlotDeck.Proofs.Layout.Frame
import PlotDeck.Proofs.Layout.Registry
import PlotDeck.Proofs.Template.Kept
import PlotDeck.Proofs.Text.Occurrence

/-!
# The images of a rendered slide

A built-in layout shows each plot of a slide once. `Images` lists the occurrences of the image
command in a text together with the plots that they show; since every line ends with a line feed,
which the command does not hold, lines can be read one by one (`Images.append`). The images of a
panel, of a stack, of a middle part and of a frame follow in turn, and `Builtin.images_render` says
it of the rendered slide.
-/

namespace PlotDeck

open Template Text

/-! ### Images in a text -/

/-- The image of plot `k` **stands at** position `i` of a text: there is the directive around the
path of the plot and, if the caption of the plot stays, the caption is on the line before it, with
at most a line break in between. -/
def ImageAt (s : Slide) (opening t : List Char) (i k : Nat) : Prop :=
  ∃ p, s.plot? k = some p ∧ opening ++ p.path.toList ++ ['\x7d'] <+: t.drop i ∧
    (p.captionStays = true →
      ∃ gap ∈ [[], ['\\', '\\', '\n']], p.caption.toList ++ '\n' :: gap <:+ t.take i)

section ImageAt

variable {s : Slide} {opening t : List Char} {i k : Nat}

theorem ImageAt.le_length (h : ImageAt s opening t i k) : i ≤ t.length := by
  obtain ⟨p, -, himage, -⟩ := h
  by_contra hlt
  rw [List.drop_eq_nil_of_le (by omega), List.prefix_nil] at himage
  simp at himage

theorem ImageAt.append_right (h : ImageAt s opening t i k) (r : List Char) :
    ImageAt s opening (t ++ r) i k := by
  have hi := h.le_length
  obtain ⟨p, hp, himage, hcaption⟩ := h
  refine ⟨p, hp, ?_, fun hstays => ?_⟩
  · rw [List.drop_append_of_le_length hi]
    exact himage.trans (List.prefix_append _ _)
  · rw [List.take_append_of_le_length hi]
    exact hcaption hstays

theorem ImageAt.append_left (h : ImageAt s opening t i k) (r : List Char) :
    ImageAt s opening (r ++ t) (i + r.length) k := by
  obtain ⟨p, hp, himage, hcaption⟩ := h
  refine ⟨p, hp, ?_, fun hstays => ?_⟩
  · rw [Nat.add_comm, List.drop_length_add_append]
    exact himage
  · obtain ⟨gap, hgap, hbefore⟩ := hcaption hstays
    refine ⟨gap, hgap, ?_⟩
    rw [Nat.add_comm, List.take_length_add_append]
    exact hbefore.trans (List.suffix_append _ _)

end ImageAt

/-- The images of a text are those of the plots `ks`, in this order. -/
structure Images (s : Slide) (opening : List Char) (ks : List Nat) (t : List Char) : Prop where
  /-- The text ends with a line feed unless it is empty. -/
  ends : t = [] ∨ ∃ u, t = u ++ ['\n']
  /-- Where the command occurs, there is the image of a plot. -/
  each : List.Forall₂ (ImageAt s opening t) (occurrences embedCommand t) ks

/-- The text is a line without an image. -/
def IsImageFree (t : List Char) : Prop := ∃ u, t = u ++ ['\n'] ∧ ¬embedCommand <:+: u

theorem embedCommand_ne_nil : embedCommand ≠ [] := by decide

namespace Images

variable {s : Slide} {opening t t' : List Char} {ks ks' : List Nat}

theorem nil : Images s opening [] [] := ⟨.inl rfl, .nil⟩

theorem occurrences_append (h : t = [] ∨ ∃ u, t = u ++ ['\n']) :
    occurrences embedCommand (t ++ t')
      = occurrences embedCommand t ++ (occurrences embedCommand t').map (· + t.length) := by
  rcases h with rfl | ⟨u, rfl⟩
  · simp [occurrences]
  · exact occurrences_append_singleton_append embedCommand_ne_nil (by decide) u t'

theorem append (h : Images s opening ks t) (h' : Images s opening ks' t') :
    Images s opening (ks ++ ks') (t ++ t') where
  ends := by
    rcases h'.ends with rfl | ⟨u, rfl⟩
    · simpa using h.ends
    · exact .inr ⟨t ++ u, by simp⟩
  each := by
    rw [occurrences_append h.ends]
    refine List.rel_append (h.each.imp fun _ _ hat => hat.append_right t') ?_
    exact List.forall₂_map_left_iff.2 (h'.each.imp fun _ _ hat => hat.append_left t)

/-- Lines without images have none together. -/
theorem of_forall_isImageFree {ts : List (List Char)} (h : ∀ t ∈ ts, IsImageFree t) :
    Images s opening [] ts.flatten := by
  induction ts with
  | nil => exact nil
  | cons t ts ih =>
    obtain ⟨⟨u, rfl, hu⟩, hts⟩ := List.forall_mem_cons.1 h
    have hnone : occurrences embedCommand (u ++ ['\n']) = [] := by
      rw [occurrences_eq_nil_iff embedCommand_ne_nil]
      exact not_infix_append_cons embedCommand_ne_nil (by decide) hu (by decide)
    have hline : Images s opening [] (u ++ ['\n']) := by
      refine ⟨.inr ⟨u, rfl⟩, ?_⟩
      rw [hnone]
      exact .nil
    exact append hline (ih hts)

end Images

/-! ### The images of rows -/

/-- The texts of the marked rows, filled and put together. -/
def Row.written (s : Slide) (marks : List Bool) (rows : List Row) : List Char :=
  (pick marks (rows.map fun r => (r.fill s).text)).flatten

section Written

variable {s : Slide} {opening : List Char} {ks ks' : List Nat} {marks marks' : List Bool}
  {rows rows' : List Row}

theorem Images.written_append (h : Images s opening ks (Row.written s marks rows))
    (h' : Images s opening ks' (Row.written s marks' rows'))
    (hlength : marks.length = rows.length) :
    Images s opening (ks ++ ks') (Row.written s (marks ++ marks') (rows ++ rows')) := by
  rw [Row.written, List.map_append, pick_append (by simpa using hlength), List.flatten_append]
  exact h.append h'

/-- Rows without images have none, whichever of them are marked. -/
theorem Images.written_of_forall (h : ∀ r ∈ rows, IsImageFree (r.fill s).text) :
    Images s opening [] (Row.written s marks rows) := by
  refine Images.of_forall_isImageFree fun t ht => ?_
  obtain ⟨r, hr, rfl⟩ := List.mem_map.1 (mem_of_mem_pick ht)
  exact h r hr

end Written

namespace Builtin

variable {s : Slide} {k : Nat} {width : String} {p : Plot}

theorem isImageFree_plain {t : String} (hliteral : ∀ c ∈ t.toList, isLiteralChar c = true)
    (h : ¬embedCommand <:+: t.toList) : IsImageFree ((plain t).fill s).text := by
  rw [fill_plain hliteral]
  exact ⟨_, rfl, h⟩

theorem isImageFree_caption (hk : IsIndex k)
    (hs : ∀ t ∈ s.strings, ¬embedCommand <:+: t.toList) :
    IsImageFree ((caption k).fill s).text := by
  cases hp : s.plot? k with
  | none =>
    rw [fill_caption_none hk hp]
    exact ⟨[], rfl, by decide⟩
  | some p =>
    rw [fill_caption_some hk hp]
    exact ⟨_, rfl, hs _ (Slide.caption_mem_strings (Slide.mem_plots_of_plot? hp))⟩

/-- An image line holds the command once, at its start. -/
theorem occurrences_image (hk : IsIndex k) (hw : IsWidth width) (hp : s.plot? k = some p)
    (hpath : ¬embedCommand <:+: p.path.toList) :
    occurrences embedCommand ((image width k).fill s).text = [0] := by
  have hline : ((image width k).fill s).text = embedCommand ++ '[' :: ("width".toList ++ '=' ::
      (width.toList ++ ']' :: ([] ++ '\x7b' :: (p.path.toList ++ '\x7d' :: ['\n'])))) := by
    rw [fill_image_some hk hw hp, toList_imageOpening]
    change "\\includegraphics[width=".toList ++ width.toList ++ "]\x7b".toList ++ p.path.toList
      ++ ['\x7d', '\n'] = _
    have hopen : "\\includegraphics[width=".toList = embedCommand ++ '[' :: "width=".toList := by
      decide
    rw [hopen]
    simp
  have hrest : ¬embedCommand <:+: "width".toList ++ '=' ::
      (width.toList ++ ']' :: ([] ++ '\x7b' :: (p.path.toList ++ '\x7d' :: ['\n']))) := by
    refine not_infix_append_cons embedCommand_ne_nil (by decide) (by decide) ?_
    refine not_infix_append_cons embedCommand_ne_nil (by decide) hw.noImage ?_
    refine not_infix_append_cons embedCommand_ne_nil (by decide) (by decide) ?_
    exact not_infix_append_cons embedCommand_ne_nil (by decide) hpath (by decide)
  rw [hline, occurrences_append_cons embedCommand_ne_nil (by decide),
    (occurrences_eq_nil_iff embedCommand_ne_nil).2 hrest]
  decide

/-! ### The images of a stack -/

theorem filter_singleton_some (hk : 0 < k) (hp : s.plot? k = some p) :
    [k].filter (· ≤ s.plots.length) = [k] := by
  have hle : ¬s.plots.length < k := fun hlt => by simp [(s.plot?_eq_none_iff hk).2 hlt] at hp
  simpa using Nat.le_of_not_lt hle

theorem filter_singleton_none (hk : 0 < k) (hp : s.plot? k = none) :
    [k].filter (· ≤ s.plots.length) = [] := by
  have hlt := (s.plot?_eq_none_iff hk).1 hp
  simpa using hlt

/-- A panel shows its plot if the slide holds it, with its caption directly before it. -/
theorem images_panel (hk : IsIndex k) (hw : IsWidth width)
    (hs : ∀ t ∈ s.strings, ¬embedCommand <:+: t.toList) :
    Images s (imageOpening width).toList ([k].filter (· ≤ s.plots.length))
      (Row.written s (s.panelMarks k) (panel width k)) := by
  cases hp : s.plot? k with
  | none =>
    rw [filter_singleton_none hk.1 hp, Slide.panelMarks, hp]
    exact Images.nil
  | some p =>
    have hpath := hs _ (Slide.path_mem_strings (Slide.mem_plots_of_plot? hp))
    -- the lines before the image: the caption, if it stays, and the break, if it stays
    let before :=
      Row.written s [p.captionStays, p.captionStays && !p.captionOpens] [caption k, lineBreak]
    have hbefore : Images s (imageOpening width).toList [] before := by
      refine Images.written_of_forall ?_
      simp only [List.forall_mem_cons, List.not_mem_nil, false_imp_iff, implies_true, and_true]
      exact ⟨isImageFree_caption hk hs, isImageFree_plain (by decide) (by decide)⟩
    have hwritten : Row.written s (s.panelMarks k) (panel width k)
        = before ++ ((image width k).fill s).text := by
      rw [Slide.panelMarks, hp]
      simp [before, Row.written, panel, pick_cons]
    have hat : ImageAt s (imageOpening width).toList (before ++ ((image width k).fill s).text)
        before.length k := by
      refine ⟨p, hp, ?_, fun hstays => ?_⟩
      · rw [List.drop_left, fill_image_some hk hw hp]
        exact ⟨['\n'], by simp⟩
      · rw [List.take_left]
        have hcaption : ((caption k).fill s).text = p.caption.toList ++ ['\n'] := by
          rw [fill_caption_some hk hp]
        cases hopens : p.captionOpens with
        | false =>
          refine ⟨['\\', '\\', '\n'], by simp, ?_⟩
          simp [before, Row.written, hstays, hopens, hcaption, fill_lineBreak]
        | true =>
          refine ⟨[], by simp, ?_⟩
          simp [before, Row.written, hstays, hopens, hcaption]
    rw [filter_singleton_some hk.1 hp, hwritten]
    refine ⟨.inr ⟨before ++ (imageOpening width).toList ++ p.path.toList ++ ['\x7d'], ?_⟩, ?_⟩
    · rw [fill_image_some hk hw hp]
      simp
    · have hnone : occurrences embedCommand before = [] := by
        have h := hbefore.each
        rwa [List.forall₂_nil_right_iff] at h
      rw [Images.occurrences_append hbefore.ends, hnone, occurrences_image hk hw hp hpath]
      simpa using hat

theorem images_stackBody {breakAfter : Bool} {plots : List Nat} (hc : IsColumn plots)
    (hw : IsWidth width) (hs : ∀ t ∈ s.strings, ¬embedCommand <:+: t.toList) :
    Images s (imageOpening width).toList (plots.filter (· ≤ s.plots.length))
      (Row.written s (s.stackMarks breakAfter plots) (stackBody width breakAfter plots)) := by
  have hbreak : IsImageFree (lineBreak.fill s).text := isImageFree_plain (by decide) (by decide)
  have hclosing : IsImageFree ((closing "center").fill s).text :=
    isImageFree_plain (by decide) (by decide)
  have hend : ∀ marks, Images s (imageOpening width).toList []
      (Row.written s marks (stackBody width breakAfter [])) := by
    intro marks
    refine Images.written_of_forall ?_
    rw [stackBody_nil, List.forall_mem_append]
    refine ⟨?_, by simpa using hclosing⟩
    cases breakAfter with
    | false => simp
    | true => simpa using hbreak
  induction plots with
  | nil => exact hend _
  | cons k ks ih =>
    have hk := hc.index k List.mem_cons_self
    have hpanel := images_panel hk hw hs
    have hlength : (s.panelMarks k).length = (panel width k).length := by
      simpa using (settles_panel hk hw).length_eq
    cases ks with
    | nil =>
      have himages := hpanel.written_append
        (hend ((if breakAfter then [(s.plot? k).isSome] else []) ++ [true])) hlength
      rw [List.append_nil] at himages
      rw [stackBody_singleton, Slide.stackMarks, List.append_assoc]
      exact himages
    | cons k' ks =>
      have hrow : Images s (imageOpening width).toList []
          (Row.written s [(s.plot? k').isSome] [lineBreak]) :=
        Images.written_of_forall (by simpa using hbreak)
      have hrest := hrow.written_append (ih hc.tail) rfl
      have himages := hpanel.written_append hrest hlength
      rw [List.nil_append, ← List.filter_append] at himages
      rw [stackBody_cons_cons, Slide.stackMarks]
      exact himages

theorem images_stack {breakAfter : Bool} {plots : List Nat} (hc : IsColumn plots)
    (hw : IsWidth width) (hs : ∀ t ∈ s.strings, ¬embedCommand <:+: t.toList) :
    Images s (imageOpening width).toList (plots.filter (· ≤ s.plots.length))
      (Row.written s (true :: s.stackMarks breakAfter plots) (stack width plots breakAfter)) := by
  have hopening : IsImageFree ((opening "center" "").fill s).text :=
    isImageFree_plain (by decide) (by decide)
  have hopen : Images s (imageOpening width).toList []
      (Row.written s [true] [opening "center" ""]) :=
    Images.written_of_forall (by simpa using hopening)
  rw [stack_eq_cons]
  exact hopen.written_append (images_stackBody hc hw hs) rfl

/-! ### The images of a frame -/

/-- The images of a middle part, together with its marks. -/
theorem images_middle {capacity : Nat} {plots : List Nat} {rows : List Row}
    (h : Middle capacity width plots rows) (hw : IsWidth width)
    (hcapacity : s.plots.length ≤ capacity)
    (hs : ∀ t ∈ s.strings, ¬embedCommand <:+: t.toList) :
    ∃ marks, (∀ a, Settles a (rows.map (Row.fill s)) marks true) ∧
      Images s (imageOpening width).toList (plots.filter (· ≤ s.plots.length))
        (Row.written s marks rows) := by
  have hplain : ∀ {t}, IsPlain t →
      Images s (imageOpening width).toList [] (Row.written s [true] [Builtin.plain t]) :=
    fun ht => Images.written_of_forall (by simpa using isImageFree_plain ht.literal ht.noImage)
  -- the marks are those that the middle part settles with, so they come with the images
  induction h with
  | last ht hends => exact ⟨[true], fun a => hends ▸ settles_plain ht a, hplain ht⟩
  | lastStack breakAfter hplots =>
    exact ⟨_, settles_stack hplots hw, images_stack hplots hw hs⟩
  | plain ht _ ih =>
    obtain ⟨marks, hmarks, himages⟩ := ih
    refine ⟨true :: marks, fun a => (settles_plain ht a).append (hmarks _), ?_⟩
    exact (hplain ht).written_append himages rfl
  | @spare k _ _ hk hlt _ ih =>
    obtain ⟨marks, hmarks, himages⟩ := ih
    have hnone : s.plot? k = none := (s.plot?_eq_none_iff hk.1).2 (by omega)
    have hspare := Settles.of_removed (isRemoved_caption hk hnone)
    exact ⟨false :: marks, fun a => (hspare a).append (hmarks a), himages⟩
  | @stack column _ rows breakAfter hcolumn _ ih =>
    obtain ⟨marks, hmarks, himages⟩ := ih
    have hstack : ∀ a, Settles a ((stack width column breakAfter).map (Row.fill s))
        (true :: s.stackMarks breakAfter column) true := settles_stack hcolumn hw
    refine ⟨(true :: s.stackMarks breakAfter column) ++ marks, fun a => ?_, ?_⟩
    · rw [List.map_append]
      exact (hstack a).append (hmarks _)
    · rw [List.filter_append]
      refine (images_stack hcolumn hw hs).written_append himages ?_
      simpa using (hstack true).length_eq

theorem isImageFree_head (hs : ∀ t ∈ s.strings, ¬embedCommand <:+: t.toList) :
    ∀ r ∈ head, IsImageFree (r.fill s).text := by
  have hheading := hs _ Slide.heading_mem_strings
  have htitle := hs s.title List.mem_cons_self
  have htop : ¬embedCommand <:+: s.top := by
    rcases Slide.top_cases (s := s) with h | ⟨t, ht, h⟩ <;> rw [h]
    · decide
    · exact hs t ht
  simp only [head, List.forall_mem_cons, List.not_mem_nil, false_imp_iff, implies_true, and_true]
  refine ⟨isImageFree_plain (by decide) (by decide), ?_, ?_, ?_⟩
  · rw [fill_sectionHeading]
    refine ⟨"\\section".toList ++ '\x7b' :: (s.heading.toList ++ '\x7d' :: []), by simp, ?_⟩
    refine not_infix_append_cons embedCommand_ne_nil (by decide) (by decide) ?_
    exact not_infix_append_cons embedCommand_ne_nil (by decide) hheading (by decide)
  · rw [fill_frameOpening]
    refine ⟨"\\begin\x7bframe\x7d".toList ++ '\x7b' :: (s.title.toList ++ '\x7d' :: []),
      by simp, ?_⟩
    refine not_infix_append_cons embedCommand_ne_nil (by decide) (by decide) ?_
    exact not_infix_append_cons embedCommand_ne_nil (by decide) htitle (by decide)
  · rw [fill_topText]
    exact ⟨_, rfl, htop⟩

theorem isImageFree_foot (hs : ∀ t ∈ s.strings, ¬embedCommand <:+: t.toList) :
    ∀ r ∈ foot, IsImageFree (r.fill s).text := by
  have hbottom : ¬embedCommand <:+: s.bottom := by
    rcases Slide.bottom_cases (s := s) with h | ⟨t, ht, h⟩ <;> rw [h]
    · decide
    · exact hs t ht
  simp only [foot, List.forall_mem_cons, List.not_mem_nil, false_imp_iff, implies_true, and_true]
  refine ⟨?_, isImageFree_plain (by decide) (by decide)⟩
  rw [fill_bottomText]
  exact ⟨_, rfl, hbottom⟩

/-- The images of a slide in a built-in layout. -/
theorem images_render {l : Layout} (hl : l ∈ Registry.builtin.layouts)
    (hcapacity : s.plots.length ≤ l.capacity)
    (hs : ∀ t ∈ s.strings, ¬embedCommand <:+: t.toList) :
    ∃ out, l.render s = .ok out ∧ Images s (imageOpening (imageWidth l.capacity)).toList
      (columnOrder l.capacity s.plots.length) out.toList := by
  obtain ⟨plots, rows, h⟩ := exists_hasMiddle hl
  have hw := isWidth_imageWidth l.capacity
  obtain ⟨marks, hmarks, himages⟩ := images_middle h.middle hw hcapacity hs
  obtain ⟨out, hout, htext⟩ := Layout.exists_render hcapacity
  refine ⟨out, hout, ?_⟩
  have hwritten : out.toList = Row.written s
      ([true, true, true, s.topStays] ++ marks ++ [true, true]) (head ++ rows ++ foot) := by
    rw [htext, ← Layout.pick_texts, h.eq_frame, keeps_frame h.middle hw hmarks,
      fill_frame h.middle hw, Row.written]
    simp [Function.comp_def]
  have hhead : Images s (imageOpening (imageWidth l.capacity)).toList []
      (Row.written s [true, true, true, s.topStays] head) :=
    Images.written_of_forall (isImageFree_head hs)
  have hfoot : Images s (imageOpening (imageWidth l.capacity)).toList []
      (Row.written s [true, true] foot) :=
    Images.written_of_forall (isImageFree_foot hs)
  have hrows : marks.length = rows.length := by simpa using (hmarks true).length_eq
  have hall := (hhead.written_append himages rfl).written_append hfoot (by simp [head, hrows])
  -- head and foot add lines without images around those of the middle part
  rw [hwritten, ← h.order _ hcapacity]
  simpa using hall

/-- Column order places the plots up to the count, each of them once. -/
theorem columnOrder_perm {l : Layout} (hl : l ∈ Registry.builtin.layouts) {n : Nat}
    (hn : n ≤ l.capacity) : (columnOrder l.capacity n).Perm (List.range' 1 n) := by
  have hall : ∀ l ∈ Registry.builtin.layouts, ∀ n ≤ l.capacity,
      (columnOrder l.capacity n).Perm (List.range' 1 n) := by decide
  exact hall l hl n hn

end Builtin

/-- **Images**: a slide with at most ten plots, none of whose strings holds the image command, has a
layout; and in each built-in layout with room for it, it renders to a text in which the occurrences
of the image command are the images of its plots, each of them once, in column order. -/
theorem Builtin.imageAt_occurrences {s : Slide} (hcount : s.plots.length ≤ 10)
    (hs : ∀ t ∈ s.strings, ¬embedCommand <:+: t.toList) :
    (∃ l, Registry.builtin.resolve s.plots.length = .ok l ∧ l ∈ Registry.builtin.layouts ∧
      s.plots.length ≤ l.capacity) ∧
    ∀ l ∈ Registry.builtin.layouts, s.plots.length ≤ l.capacity →
      ∃ out, l.render s = .ok out ∧
        (occurrences embedCommand out.toList).length = s.plots.length ∧
        (columnOrder l.capacity s.plots.length).Perm (List.range' 1 s.plots.length) ∧
        List.Forall₂ (ImageAt s (imageOpening (imageWidth l.capacity)).toList out.toList)
          (occurrences embedCommand out.toList) (columnOrder l.capacity s.plots.length) := by
  have hten : Builtin.ten ∈ Registry.builtin.layouts := by
    simp [Registry.layouts_builtin, Builtin.layouts]
  refine ⟨Registry.exists_resolve hten hcount, fun l hl hcapacity => ?_⟩
  obtain ⟨out, hout, himages⟩ := images_render hl hcapacity hs
  have hperm := columnOrder_perm hl hcapacity
  refine ⟨out, hout, ?_, hperm, himages.each⟩
  rw [himages.each.length_eq, hperm.length_eq, List.length_range']

/-- Two plots whose paths look like a placeholder and like the end of a group. -/
theorem Builtin.imageAt_occurrences_lookalikes :
    ∃ out, Builtin.two.render
        { title := "T", plots := [⟨"@PLOT10", "left"⟩, ⟨"a\x7d\n.pdf", "\\\\"⟩] } = .ok out ∧
      (occurrences embedCommand out.toList).length = 2 := by
  have htwo : Builtin.two ∈ Registry.builtin.layouts := by
    simp [Registry.layouts_builtin, Builtin.layouts]
  have himages := (Builtin.imageAt_occurrences
    (s := { title := "T", plots := [⟨"@PLOT10", "left"⟩, ⟨"a\x7d\n.pdf", "\\\\"⟩] })
    (by decide) (by decide)).2
  obtain ⟨out, hout, hlength, -⟩ := himages Builtin.two htwo (by decide)
  exact ⟨out, hout, hlength⟩

end PlotDeck

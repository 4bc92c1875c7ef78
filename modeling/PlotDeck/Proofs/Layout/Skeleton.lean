import PlotDeck.Proofs.Layout.Frame
import PlotDeck.Proofs.Template.Kept

/-!
# The skeleton of a slide

The **skeleton** of a rendered slide is the list of those template lines that it keeps. In a
built-in layout it depends on what the slide says in three ways only: whether the text above the
plots is a bare line break, whether a caption is blank or a bare line break, and whether it starts
like a line that opens an environment. `Layout.keptLines_eq_iff_agree` says that two slides with
equally many plots have the same skeleton exactly when they agree on these, and
`Layout.lines_render` that the lines of the rendered text are the lines of the skeleton, filled in,
where the slide holds no line feeds.

So the words of a slide can change its skeleton: a caption can be taken for a line break of the
layout.
-/

namespace PlotDeck

open Template Text

/-! ### What the marks of a stack depend on -/

/-- Two slides hold captions of the same kind for a plot that both of them have. -/
def SameCaption (s s' : Slide) (k : Nat) : Prop :=
  ∀ p p', s.plot? k = some p → s'.plot? k = some p' →
    p.captionStays = p'.captionStays ∧ p.captionOpens = p'.captionOpens

/-- A caption that opens an environment is neither blank nor a line break. -/
theorem Plot.captionStays_of_captionOpens {p : Plot} (h : p.captionOpens = true) :
    p.captionStays = true := by
  obtain ⟨t, ht⟩ : beginMark <+: trim p.caption.toList := List.isPrefixOf_iff_prefix.1 h
  have hblank : beginMark ++ t ≠ [] := by simp [show beginMark ≠ [] by decide]
  have hbreak : beginMark ++ t ≠ Template.lineBreak := fun h => by
    have htake : ['\\', 'b'] = ['\\', '\\'] := congrArg (List.take 2) h
    exact absurd htake (by decide)
  simp [Plot.captionStays, ← ht, hblank, hbreak]

section SameLength

variable {s s' : Slide} (hlength : s'.plots.length = s.plots.length)
include hlength

theorem Slide.isSome_plot?_eq (k : Nat) : (s.plot? k).isSome = (s'.plot? k).isSome := by
  rw [Bool.eq_iff_iff, Option.isSome_iff_ne_none, Option.isSome_iff_ne_none, Slide.plot?,
    Slide.plot?, Ne, Ne, List.getElem?_eq_none_iff, List.getElem?_eq_none_iff, hlength]

theorem Slide.panelMarks_eq_iff (k : Nat) :
    s.panelMarks k = s'.panelMarks k ↔ SameCaption s s' k := by
  have hsome := Slide.isSome_plot?_eq hlength k
  cases hp : s.plot? k with
  | none =>
    have hp' : s'.plot? k = none := by simpa [hp] using hsome
    simp [Slide.panelMarks, SameCaption, hp, hp']
  | some p =>
    obtain ⟨p', hp'⟩ : ∃ p', s'.plot? k = some p' :=
      Option.isSome_iff_exists.1 (by simpa [hp] using hsome.symm)
    have hopens := @Plot.captionStays_of_captionOpens p
    have hopens' := @Plot.captionStays_of_captionOpens p'
    have hmarks : s.panelMarks k = s'.panelMarks k ↔
        p.captionStays = p'.captionStays ∧ p.captionOpens = p'.captionOpens := by
      simp only [Slide.panelMarks, hp, hp', List.cons.injEq, and_true]
      -- what opens an environment stays, so two marks tell the three kinds of captions apart
      revert hopens hopens'
      cases p.captionStays <;> cases p'.captionStays <;> cases p.captionOpens <;>
        cases p'.captionOpens <;> decide
    rw [hmarks]
    constructor
    · rintro h q q' hq hq'
      obtain rfl : p = q := Option.some.inj (hp.symm.trans hq)
      obtain rfl : p' = q' := Option.some.inj (hp'.symm.trans hq')
      exact h
    · exact fun h => h p p' hp hp'

theorem Slide.stackMarks_eq_iff (breakAfter : Bool) (plots : List Nat) :
    s.stackMarks breakAfter plots = s'.stackMarks breakAfter plots ↔
      ∀ k ∈ plots, SameCaption s s' k := by
  have hlen : ∀ k, (s.panelMarks k).length = (s'.panelMarks k).length := by
    have hthree : ∀ (s : Slide) k, (s.panelMarks k).length = 3 := fun s k => by
      rw [Slide.panelMarks]
      split <;> rfl
    exact fun k => (hthree s k).trans (hthree s' k).symm
  induction plots with
  | nil => simp [Slide.stackMarks]
  | cons k ks ih =>
    have hsome := Slide.isSome_plot?_eq hlength
    cases ks with
    | nil =>
      rw [Slide.stackMarks, Slide.stackMarks, hsome, List.append_assoc, List.append_assoc,
        List.append_left_inj, Slide.panelMarks_eq_iff hlength]
      simp
    | cons k' ks =>
      rw [Slide.stackMarks, Slide.stackMarks, hsome k',
        List.append_eq_append_iff_of_size_eq_left (hlen k), List.cons.injEq,
        Slide.panelMarks_eq_iff hlength, List.forall_mem_cons]
      exact and_congr_right fun _ => (and_iff_right rfl).trans ih

end SameLength

/-! ### What the skeleton depends on -/

namespace Builtin

variable {s s' : Slide} {capacity : Nat} {width : String} {plots : List Nat} {rows : List Row}

/-- The marks of a middle part, for two slides at once. -/
theorem settles_middle (h : Middle capacity width plots rows) (hw : IsWidth width)
    (hcapacity : s.plots.length ≤ capacity) (hlength : s'.plots.length = s.plots.length) :
    ∃ marks marks', (∀ a, Settles a (rows.map (Row.fill s)) marks true) ∧
      (∀ a, Settles a (rows.map (Row.fill s')) marks' true) ∧
      (marks = marks' ↔ ∀ k ∈ plots, SameCaption s s' k) := by
  -- the marks of rows without slots are the same for all slides, so stacks alone tell them apart
  induction h with
  | last ht hends =>
    refine ⟨[true], [true], fun a => ?_, fun a => ?_, by simp⟩ <;>
      exact hends ▸ settles_plain ht a
  | lastStack breakAfter hplots =>
    refine ⟨_, _, settles_stack hplots hw, settles_stack hplots hw, ?_⟩
    rw [List.cons.injEq, Slide.stackMarks_eq_iff hlength]
    simp
  | plain ht _ ih =>
    obtain ⟨marks, marks', hmarks, hmarks', hiff⟩ := ih
    refine ⟨true :: marks, true :: marks', fun a => ?_, fun a => ?_, by simpa using hiff⟩
    · exact (settles_plain ht a).append (hmarks _)
    · exact (settles_plain ht a).append (hmarks' _)
  | @spare k _ _ hk hlt _ ih =>
    obtain ⟨marks, marks', hmarks, hmarks', hiff⟩ := ih
    have hnone : s.plot? k = none := (s.plot?_eq_none_iff hk.1).2 (by omega)
    have hnone' : s'.plot? k = none := (s'.plot?_eq_none_iff hk.1).2 (by omega)
    refine ⟨false :: marks, false :: marks', fun a => ?_, fun a => ?_, by simpa using hiff⟩
    · exact (Settles.of_removed (isRemoved_caption hk hnone) a).append (hmarks a)
    · exact (Settles.of_removed (isRemoved_caption hk hnone') a).append (hmarks' a)
  | @stack column _ _ breakAfter hcolumn _ ih =>
    obtain ⟨marks, marks', hmarks, hmarks', hiff⟩ := ih
    refine ⟨(true :: s.stackMarks breakAfter column) ++ marks,
      (true :: s'.stackMarks breakAfter column) ++ marks', fun a => ?_, fun a => ?_, ?_⟩
    · rw [List.map_append]
      exact (settles_stack hcolumn hw a).append (hmarks _)
    · rw [List.map_append]
      exact (settles_stack hcolumn hw a).append (hmarks' _)
    · have hlen : (true :: s.stackMarks breakAfter column).length
          = (true :: s'.stackMarks breakAfter column).length := by
        rw [(settles_stack hcolumn hw true).length_eq, (settles_stack hcolumn hw true).length_eq,
          List.length_map, List.length_map]
      rw [List.append_eq_append_iff_of_size_eq_left hlen, List.cons.injEq,
        Slide.stackMarks_eq_iff hlength, hiff, List.forall_mem_append]
      exact and_congr_left fun _ => and_iff_right rfl

/-! ### Filled rows are lines -/

theorem isLine_append_newline {t : List Char} (ht : '\n' ∉ t) : IsLine (t ++ ['\n']) :=
  ⟨t, rfl, ht⟩

theorem isLine_fill_of_isRow {r : Row} (hr : IsRow width r) (hw : IsWidth width)
    (hfeed : ∀ t ∈ s.strings, '\n' ∉ t.toList) : IsLine (r.fill s).text := by
  have hliteral : ∀ {t : List Char}, (∀ c ∈ t, isLiteralChar c = true) → '\n' ∉ t :=
    fun h hmem => absurd (h _ hmem) (by decide)
  cases hr with
  | plain ht =>
    rw [fill_plain ht]
    exact isLine_append_newline (hliteral ht)
  | @caption k hk =>
    cases hp : s.plot? k with
    | none =>
      rw [fill_caption_none hk hp]
      exact isLine_append_newline List.not_mem_nil
    | some p =>
      rw [fill_caption_some hk hp]
      exact isLine_append_newline
        (hfeed _ (Slide.caption_mem_strings (Slide.mem_plots_of_plot? hp)))
  | @image k hk =>
    cases hp : s.plot? k with
    | none =>
      rw [fill_image_none hk hw hp]
      exact isLine_append_newline List.not_mem_nil
    | some p =>
      have hpath := hfeed _ (Slide.path_mem_strings (Slide.mem_plots_of_plot? hp))
      have hopening := hliteral (readsBack_image hk hw).before
      rw [fill_image_some hk hw hp]
      refine ⟨(imageOpening width).toList ++ p.path.toList ++ ['\x7d'], by simp, ?_⟩
      rw [List.mem_append, List.mem_append, not_or, not_or]
      exact ⟨⟨hopening, hpath⟩, by decide⟩

theorem isLine_fill_head (hfeed : ∀ t ∈ s.strings, '\n' ∉ t.toList) :
    ∀ r ∈ head, IsLine (r.fill s).text := by
  have hheading := hfeed _ Slide.heading_mem_strings
  have htitle := hfeed s.title List.mem_cons_self
  have htop : '\n' ∉ s.top := by
    rcases Slide.top_cases (s := s) with h | ⟨t, ht, h⟩ <;> rw [h]
    · exact List.not_mem_nil
    · exact hfeed t ht
  simp only [head, List.forall_mem_cons, List.not_mem_nil, false_imp_iff, implies_true, and_true]
  refine ⟨?_, ?_, ?_, ?_⟩
  · rw [fill_plain (by decide)]
    exact isLine_append_newline (by decide)
  · rw [fill_sectionHeading]
    exact ⟨"\\section\x7b".toList ++ s.heading.toList ++ ['\x7d'], by simp, by simpa using hheading⟩
  · rw [fill_frameOpening]
    exact ⟨"\\begin\x7bframe\x7d\x7b".toList ++ s.title.toList ++ ['\x7d'], by simp,
      by simpa using htitle⟩
  · rw [fill_topText]
    exact isLine_append_newline htop

theorem isLine_fill_foot (hfeed : ∀ t ∈ s.strings, '\n' ∉ t.toList) :
    ∀ r ∈ foot, IsLine (r.fill s).text := by
  have hbottom : '\n' ∉ s.bottom := by
    rcases Slide.bottom_cases (s := s) with h | ⟨t, ht, h⟩ <;> rw [h]
    · exact List.not_mem_nil
    · exact hfeed t ht
  simp only [foot, List.forall_mem_cons, List.not_mem_nil, false_imp_iff, implies_true, and_true]
  refine ⟨?_, ?_⟩
  · rw [fill_bottomText]
    exact isLine_append_newline hbottom
  · have hrow : IsRow "" (closing "frame") := .plain (by decide)
    exact isLine_fill_of_isRow hrow ⟨by simp, by simp, by decide⟩ hfeed

end Builtin

/-! ### The skeleton of a built-in layout -/

section Builtin

variable {l : Layout} {s s' : Slide}

/-- Without line feeds in the slide, the lines of the rendered text are the kept lines, filled. -/
theorem Layout.lines_render (hl : l ∈ Registry.builtin.layouts)
    (hcapacity : s.plots.length ≤ l.capacity) (hfeed : ∀ t ∈ s.strings, '\n' ∉ t.toList) :
    ∃ out, l.render s = .ok out ∧ lines out.toList = (l.keptLines s).map (l.lineText s) := by
  obtain ⟨plots, rows, h⟩ := Builtin.exists_hasMiddle hl
  have hw := Builtin.isWidth_imageWidth l.capacity
  have hfill : ∀ line ∈ l.fill s, IsLine line.text := by
    rw [h.eq_frame, Builtin.fill_frame h.middle hw]
    simp only [List.forall_mem_append, List.forall_mem_map]
    exact ⟨⟨Builtin.isLine_fill_head hfeed, fun r hr =>
      Builtin.isLine_fill_of_isRow (Builtin.isRow_of_middle h.middle r hr) hw hfeed⟩,
      Builtin.isLine_fill_foot hfeed⟩
  obtain ⟨out, hout, htext⟩ := Layout.exists_render hcapacity
  refine ⟨out, hout, ?_⟩
  rw [htext, ← Layout.pick_texts]
  refine lines_flatten fun t ht => ?_
  obtain ⟨line, hline, rfl⟩ := List.mem_map.1 (mem_of_mem_pick ht)
  exact hfill line hline

theorem Builtin.one_mem_layouts : Builtin.one ∈ Registry.builtin.layouts :=
  List.mem_cons_of_mem _ List.mem_cons_self

/-- A layout places every plot that a slide can hold. -/
theorem Builtin.mem_of_hasMiddle {plots : List Nat} {rows : List Row} {k : Nat}
    (hl : l ∈ Registry.builtin.layouts) (h : Builtin.HasMiddle l plots rows) (hk : 0 < k)
    (hle : k ≤ l.capacity) : k ∈ plots := by
  have hall : ∀ l ∈ Registry.builtin.layouts, ∀ k ≤ l.capacity, 0 < k →
      k ∈ Builtin.columnOrder l.capacity l.capacity := by decide
  have hmem := hall l hl k hle hk
  rw [← h.order l.capacity (Nat.le_refl _)] at hmem
  exact (List.mem_filter.1 hmem).1

theorem Layout.keptLines_eq_iff_agree (hl : l ∈ Registry.builtin.layouts)
    (hcapacity : s.plots.length ≤ l.capacity) (hlength : s'.plots.length = s.plots.length) :
    l.keptLines s = l.keptLines s' ↔ s.topStays = s'.topStays ∧
      ∀ (i : Nat) (p p' : Plot), s.plots[i]? = some p → s'.plots[i]? = some p' →
        p.captionStays = p'.captionStays ∧ p.captionOpens = p'.captionOpens := by
  obtain ⟨plots, rows, h⟩ := Builtin.exists_hasMiddle hl
  have hw := Builtin.isWidth_imageWidth l.capacity
  obtain ⟨marks, marks', hmarks, hmarks', hiff⟩ :=
    Builtin.settles_middle h.middle hw hcapacity hlength
  have hkeeps : ∀ {s : Slide} {marks}, (∀ a, Settles a (rows.map (Row.fill s)) marks true) →
      keeps false (l.fill s) = [true, true, true, s.topStays] ++ marks ++ [true, true] := by
    intro s marks hmarks
    rw [h.eq_frame]
    exact Builtin.keeps_frame h.middle hw hmarks
  have hplots : (∀ k ∈ plots, SameCaption s s' k) ↔
      ∀ (i : Nat) (p p' : Plot), s.plots[i]? = some p → s'.plots[i]? = some p' →
        p.captionStays = p'.captionStays ∧ p.captionOpens = p'.captionOpens := by
    constructor
    · intro hsame i p p' hp hp'
      have hlt : i < s.plots.length := (List.getElem?_eq_some_iff.1 hp).1
      exact hsame (i + 1) (Builtin.mem_of_hasMiddle hl h (Nat.succ_pos i) (by omega)) p p' hp hp'
    · exact fun hsame k _ => hsame (k - 1)
  rw [Layout.keptLines_eq_iff_keeps, hkeeps hmarks, hkeeps hmarks', List.append_left_inj, ← hplots,
    ← hiff]
  simp only [List.cons_append, List.nil_append, List.cons.injEq, true_and]

/-- **Skeletons**: two slides with equally many plots render to the filled lines of their skeletons,
and these are the same exactly when the slides agree on which captions stay, on which of them open
an environment, and on whether the text above the plots is more than a bare line break. -/
theorem Layout.keptLines_eq_iff (hl : l ∈ Registry.builtin.layouts)
    (hcapacity : s.plots.length ≤ l.capacity) (hlength : s'.plots.length = s.plots.length)
    (hfeed : ∀ t ∈ s.strings, '\n' ∉ t.toList) (hfeed' : ∀ t ∈ s'.strings, '\n' ∉ t.toList) :
    (∃ out, l.render s = .ok out ∧ lines out.toList = (l.keptLines s).map (l.lineText s)) ∧
    (∃ out, l.render s' = .ok out ∧ lines out.toList = (l.keptLines s').map (l.lineText s')) ∧
    (l.keptLines s = l.keptLines s' ↔ s.topStays = s'.topStays ∧
      ∀ (i : Nat) (p p' : Plot), s.plots[i]? = some p → s'.plots[i]? = some p' →
        p.captionStays = p'.captionStays ∧ p.captionOpens = p'.captionOpens) :=
  ⟨Layout.lines_render hl hcapacity hfeed, Layout.lines_render hl (hlength ▸ hcapacity) hfeed',
    Layout.keptLines_eq_iff_agree hl hcapacity hlength⟩

/-- Words that look like other parts of a template are no more than words. -/
theorem Layout.keptLines_eq_of_lookalikes :
    Builtin.one.keptLines { title := "T", plots := [⟨"a.pdf", "caption"⟩] }
      = Builtin.one.keptLines
        { title := "\\\\", topText := some "\\end\x7bframe\x7d",
          plots := [⟨"@PLOT1TITLE", "\\end\x7bcenter\x7d \\\\"⟩] } := by
  refine (Layout.keptLines_eq_iff Builtin.one_mem_layouts (by decide) (by rfl) (by decide)
    (by decide)).2.2.2 ⟨by decide, ?_⟩
  rintro (_ | i) p p' hp hp'
  · obtain rfl := Option.some.inj hp
    obtain rfl := Option.some.inj hp'
    decide
  · simp at hp

/-- A caption that reads like a line break of the layout is taken for one: that captions are blank
at the same positions, and texts likewise, is not enough for the same skeleton. -/
theorem Layout.keptLines_ne_of_bare_break :
    ¬∀ l ∈ Registry.builtin.layouts, ∀ s s' : Slide, s.plots.length ≤ l.capacity →
      s'.plots.length = s.plots.length →
      (∀ t ∈ s.strings, '\n' ∉ t.toList) → (∀ t ∈ s'.strings, '\n' ∉ t.toList) →
      (∀ (i : Nat) (p p' : Plot), s.plots[i]? = some p → s'.plots[i]? = some p' →
        (trim p.caption.toList = [] ↔ trim p'.caption.toList = [])) →
      (trim s.top = [] ↔ trim s'.top = []) → (trim s.bottom = [] ↔ trim s'.bottom = []) →
      l.keptLines s = l.keptLines s' := by
  intro hclaim
  have hsame := hclaim Builtin.one Builtin.one_mem_layouts
    { title := "T", plots := [⟨"a.pdf", "x"⟩] }
    { title := "T", plots := [⟨"a.pdf", "\\\\"⟩] } (by decide) rfl (by decide) (by decide) (by
      rintro (_ | i) p p' hp hp'
      · obtain rfl := Option.some.inj hp
        obtain rfl := Option.some.inj hp'
        decide
      · simp at hp) Iff.rfl Iff.rfl
  have hagree :=
    (Layout.keptLines_eq_iff_agree Builtin.one_mem_layouts (by decide) (by rfl)).1 hsame
  exact absurd (hagree.2 0 _ _ rfl rfl).1 (by decide)

end Builtin

end PlotDeck

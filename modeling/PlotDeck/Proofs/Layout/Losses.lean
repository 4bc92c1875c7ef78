import PlotDeck.Proofs.Layout.Frame
import PlotDeck.Proofs.Template.Outline

/-!
# What the missing paths take along

A missing path takes a directive along, or else its whole line. For a slide this is searched for in
the filled text, so it can depend on what the slide says. It depends on the number of plots alone
for a line that is **decided**, and for a line that all slides with so many plots lose
(`Layout.losses_eq_iff`); on a decided line every value stands whole. The lines of the built-in
layouts are decided for any number of plots (`Builtin.isDecided`).
-/

namespace PlotDeck

open Template Text

namespace Template

/-! ### The losses of a line -/

/-- Whether a slide with `n` plots has a value for the slot. -/
def Slot.isFilled (n : Nat) : Slot → Bool
  | .slideTitle | .slideSection | .topText | .bottomText => true
  | .plotCaption (k + 1) | .plotPath (k + 1) => k < n
  | _ => false

/-- What the missing paths take off a line: the whole line, or else these directives, each up to the
brace of its path. -/
def lineLosses (value? : Slot → Option (List Char)) (line : List Char) :
    Option (List (List Char)) :=
  let losses := Filling.start.losses value? (lex line)
  if none ∈ losses then none else some (losses.filterMap id)

/-- The outline of a line in slides with `n` plots. -/
def outline (n : Nat) (line : List Char) : Outline :=
  (lex line).foldl (Outline.add (Slot.isFilled n)) .start

/-- A line is **decided** for `n` plots if each missing path comes before all filled slots, or right
behind template text that tells by itself which directive it ends with. -/
def IsDecided (n : Nat) (line : List Char) : Prop :=
  Outline.start.Decided (Slot.isFilled n) (lex line)

instance (n : Nat) : DecidablePred (IsDecided n) := fun line =>
  inferInstanceAs (Decidable (Outline.start.Decided (Slot.isFilled n) (lex line)))

variable {value? : Slot → Option (List Char)} {line : List Char}

namespace Filling

variable {f : Filling} {t : Token} {ts : List Token}

/-- A token drops the line if it is a missing path that no directive surrounds. -/
theorem dropped_add :
    (f.add value? t).dropped
      = (f.dropped || (t.isMissing (fun slot => (value? slot).isSome) && f.loss.isNone)) := by
  cases t with
  | newline | literal => simp [add, write, Token.isMissing]
  | placeholder name =>
    cases hslot : Slot.ofName? name with
    | none => simp [add, hslot, write, Token.isMissing]
    | some slot =>
      cases hv : value? slot with
      | some v => cases slot <;> simp [add, hslot, addSlot, hv, write, Token.isMissing]
      | none =>
        cases slot with
        | plotPath k =>
          cases hcut : cutEmbed? f.text <;>
            simp [add, hslot, addSlot, hv, erasePath, hcut, Token.isMissing, loss]
        | _ => simp [add, hslot, addSlot, hv, write, Token.isMissing]

/-- A line is dropped if a missing path takes the whole line. -/
theorem dropped_foldl :
    (ts.foldl (Filling.add value?) f).dropped = true ↔
      f.dropped = true ∨ none ∈ f.losses value? ts := by
  induction ts generalizing f with
  | nil => simp [losses]
  | cons t ts ih =>
    rw [List.foldl_cons, ih, dropped_add, losses, List.mem_append, ← or_assoc]
    by_cases ht : t.isMissing fun slot => (value? slot).isSome
    · rw [if_pos ht, List.mem_singleton, ht, Bool.true_and, Bool.or_eq_true,
        Option.isNone_iff_eq_none, @eq_comm _ none]
    · rw [if_neg ht, Bool.eq_false_iff.2 ht]
      simp

end Filling

theorem lineLosses_eq_none_iff :
    lineLosses value? line = none ↔ (fillLine value? line).dropped = true := by
  have hstart : Filling.start.dropped = false := rfl
  rw [fillLine, Filling.dropped_foldl, lineLosses, hstart]
  simp

theorem Outline.fill_start (value? : Slot → Option (List Char)) :
    Outline.start.fill value? = Filling.start := rfl

section IsDecided

variable {n : Nat} (hfill : ∀ slot, (value? slot).isSome = slot.isFilled n)
include hfill

/-- What goes on a decided line is told by its outline. -/
theorem losses_of_isDecided (h : IsDecided n line) :
    Filling.start.losses value? (lex line) = Outline.start.losses (Slot.isFilled n) (lex line) := by
  rw [← Outline.fill_start value?]
  exact Outline.losses_fill hfill h

/-- A decided line is its outline with the values put in. -/
theorem fillLine_of_isDecided (h : IsDecided n line) :
    fillLine value? line = ((outline n line).fill value?).toLine := by
  rw [fillLine, ← Outline.fill_start value?, Outline.fill_foldl hfill h]
  rfl

end IsDecided

/-- A line that is not decided is dropped if all values are a barrier. -/
theorem lineLosses_barrier {n : Nat} (h : ¬IsDecided n line) :
    lineLosses (Outline.uniform (Slot.isFilled n) barrier) line = none := by
  have hnone := Outline.none_mem_losses_barrier (by simp [Outline.start]) h
  rw [Outline.fill_start] at hnone
  simp [lineLosses, hnone]

/-- The slots of an outline are the filled slots of the line, in order. -/
theorem slots_outline (n : Nat) (line : List Char) :
    (outline n line).pieces.map Prod.snd
      = (lex line).filterMap (Token.filledSlot? (Slot.isFilled n)) := by
  rw [outline, Outline.slots_foldl]
  rfl

end Template

/-! ### Slides with equally many plots -/

namespace Slide

/-- Which slots a slide fills depends on the number of its plots alone. -/
theorem isSome_value? (s : Slide) (slot : Slot) :
    (s.value? slot).isSome = slot.isFilled s.plots.length := by
  match slot with
  | .slideTitle | .slideSection | .topText | .bottomText => rfl
  | .title | .subtitle | .author | .file | .outline => rfl
  | .plotCaption 0 | .plotPath 0 => rfl
  | .plotCaption (k + 1) | .plotPath (k + 1) =>
    rw [Bool.eq_iff_iff]
    simp [value?, Slot.isFilled]

/-- The slide with `n` plots that says the same everywhere. -/
def uniform (n : Nat) (t : String) : Slide where
  title := t
  topText := some t
  bottomText := some t
  plots := List.replicate n ⟨t, t⟩

theorem value?_uniform (n : Nat) (t : String) :
    (uniform n t).value? = Outline.uniform (Slot.isFilled n) t.toList := by
  funext slot
  match slot with
  | .slideTitle | .slideSection | .topText | .bottomText => rfl
  | .title | .subtitle | .author | .file | .outline => rfl
  | .plotCaption 0 | .plotPath 0 => rfl
  | .plotCaption (k + 1) | .plotPath (k + 1) =>
    by_cases hk : k < n <;>
      simp [value?, uniform, Outline.uniform, Slot.isFilled, hk]

end Slide

namespace Layout

variable {l : Layout} {n : Nat}

/-- What the missing paths take off each line of a layout. -/
def losses (l : Layout) (s : Slide) : List (Option (List (List Char))) :=
  (lines l.source.toList).map (lineLosses s.value?)

/-- The lines that are lost as a whole are those that were dropped. -/
theorem map_dropped_fill (l : Layout) (s : Slide) :
    (l.fill s).map Line.dropped = (l.losses s).map Option.isNone := by
  rw [fill, losses, List.map_map, List.map_map]
  refine List.map_congr_left fun line _ => ?_
  rw [Bool.eq_iff_iff, Function.comp, Function.comp, Option.isNone_iff_eq_none,
    lineLosses_eq_none_iff]

/-- All slides with `n` plots lose the same on a line exactly if it is decided, or if they all lose
the line. -/
theorem lineLosses_eq_iff (n : Nat) (line : List Char) :
    (∀ s s' : Slide, s.plots.length = n → s'.plots.length = n →
        lineLosses s.value? line = lineLosses s'.value? line) ↔
      IsDecided n line ∨ ∀ s : Slide, s.plots.length = n → lineLosses s.value? line = none := by
  constructor
  · intro hsame
    by_cases hline : IsDecided n line
    · exact .inl hline
    · refine .inr fun s hs => ?_
      have hvalue := Slide.value?_uniform n (String.ofList barrier)
      rw [String.toList_ofList] at hvalue
      rw [hsame s (.uniform n (String.ofList barrier)) hs (by simp [Slide.uniform]), hvalue,
        lineLosses_barrier hline]
  · rintro (hline | hlost) s s' hs hs'
    · rw [lineLosses, lineLosses, losses_of_isDecided (fun slot => hs ▸ s.isSome_value? slot) hline,
        losses_of_isDecided (fun slot => hs' ▸ s'.isSome_value? slot) hline]
    · rw [hlost s hs, hlost s' hs']

/-- **Losses**: all slides with `n` plots lose the same lines and directives exactly if each line of
the layout is decided, or lost by all of them. On a decided line every value stands whole, between
the texts of the template's outline. -/
theorem losses_eq_iff (l : Layout) (n : Nat) :
    ((∀ s s' : Slide, s.plots.length = n → s'.plots.length = n → l.losses s = l.losses s') ↔
        ∀ line ∈ lines l.source.toList, IsDecided n line ∨
          ∀ s : Slide, s.plots.length = n → lineLosses s.value? line = none) ∧
      (∀ s : Slide, (l.fill s).map Line.dropped = (l.losses s).map Option.isNone) ∧
      ∀ line ∈ lines l.source.toList, IsDecided n line → ∀ s : Slide, s.plots.length = n →
        (fillLine s.value? line).text = ((outline n line).pieces.flatMap fun p =>
          p.1 ++ (s.value? p.2).getD []) ++ (outline n line).rest.text ∧
        (outline n line).pieces.map Prod.snd
          = (lex line).filterMap (Token.filledSlot? (Slot.isFilled n)) := by
  refine ⟨⟨fun hsame line hline => ?_, fun hlines s s' hs hs' => ?_⟩, map_dropped_fill l,
    fun line _ hline s hs => ⟨?_, slots_outline n line⟩⟩
  · refine (lineLosses_eq_iff n line).1 fun s s' hs hs' => ?_
    exact List.map_inj_left.1 (hsame s s' hs hs') line hline
  · refine List.map_congr_left fun line hline => ?_
    exact (lineLosses_eq_iff n line).2 (hlines line hline) s s' hs hs'
  · rw [fillLine_of_isDecided (fun slot => hs ▸ s.isSome_value? slot) hline]
    rfl

/-- Behind the directive of the template, a title that starts a directive of its own changes
nothing. -/
theorem losses_eq_of_unfinished_title :
    Layout.losses ⟨"custom", 1, "@SLIDE_TITLE \\includegraphics[width=2cm]\x7b@PLOT1\x7d end\n"⟩
        { title := "\\includegraphics[" }
      = Layout.losses ⟨"custom", 1, "@SLIDE_TITLE \\includegraphics[width=2cm]\x7b@PLOT1\x7d end\n"⟩
        { title := "T" } ∧
    (fillLine (Slide.value? { title := "\\includegraphics[" })
      "@SLIDE_TITLE \\includegraphics[width=2cm]\x7b@PLOT1\x7d end\n".toList).text
        = "\\includegraphics[  end\n".toList := by
  have hdecided : IsDecided 0
      "@SLIDE_TITLE \\includegraphics[width=2cm]\x7b@PLOT1\x7d end\n".toList := by decide +kernel
  obtain ⟨hsame, -, hwhole⟩ := losses_eq_iff
    ⟨"custom", 1, "@SLIDE_TITLE \\includegraphics[width=2cm]\x7b@PLOT1\x7d end\n"⟩ 0
  refine ⟨hsame.2 ?_ _ _ rfl rfl, ?_⟩
  · have hlines : lines "@SLIDE_TITLE \\includegraphics[width=2cm]\x7b@PLOT1\x7d end\n".toList
        = ["@SLIDE_TITLE \\includegraphics[width=2cm]\x7b@PLOT1\x7d end\n".toList] := by
      decide +kernel
    rw [hlines]
    simpa using .inl hdecided
  · rw [(hwhole _ (by decide +kernel) hdecided { title := "\\includegraphics[" } rfl).1]
    decide +kernel

/-- A line that is not decided: a title can be taken for a directive, and then it is cut off where
otherwise the line is dropped. -/
theorem dropped_depends_on_title :
    ¬∀ (l : Layout) (s s' : Slide), s.plots.length ≤ l.capacity →
      s'.plots.length = s.plots.length →
      (l.fill s).map Line.dropped = (l.fill s').map Line.dropped := by
  intro h
  have hsame := h ⟨"custom", 1, "@SLIDE_TITLE@PLOT1 x\n"⟩ { title := "\\includegraphics\x7b" }
    { title := "T" } (by decide) rfl
  revert hsame
  decide +kernel

end Layout

/-! ### Lines with one mark -/

namespace Template

variable {filled : Slot → Bool} {o : Outline} {ts : List Token}

theorem Outline.decided_of_no_mark (h : '@' ∉ ts.flatMap Token.text) : o.Decided filled ts := by
  induction ts generalizing o with
  | nil => trivial
  | cons t ts ih =>
    rw [List.flatMap_cons, List.mem_append, not_or] at h
    refine ⟨fun hmissing => ?_, ih h.2⟩
    cases t with
    | placeholder name => exact absurd List.mem_cons_self h.1
    | newline | literal => cases hmissing

theorem Outline.decided_of_count_mark_le_one (ho : o.pieces = [])
    (h : (ts.flatMap Token.text).count '@' ≤ 1) : o.Decided filled ts := by
  induction ts generalizing o with
  | nil => trivial
  | cons t ts ih =>
    rw [List.flatMap_cons, List.count_append] at h
    refine ⟨fun _ => .inl ho, ?_⟩
    cases t with
    | placeholder name =>
      rw [Token.text, List.count_cons_self] at h
      exact decided_of_no_mark (List.count_eq_zero.1 (by omega))
    | newline | literal => exact ih ho (by omega)

/-- A line with at most one mark is decided: nothing is filled before its path. -/
theorem isDecided_of_count_mark_le_one {line : List Char} (h : line.count '@' ≤ 1) (n : Nat) :
    IsDecided n line := by
  rw [← flatMap_text_lex line] at h
  exact Outline.decided_of_count_mark_le_one rfl h

end Template

/-- The text of a row holds the mark of its slot alone. -/
theorem Row.ReadsBack.count_mark_le_one {r : Row} (hr : r.ReadsBack)
    (hplain : r.slot = none → r.after = "") : (r.source.toList ++ ['\n']).count '@' ≤ 1 := by
  have hbefore : r.before.toList.count '@' = 0 :=
    List.count_eq_zero.2 fun h => absurd (hr.before _ h) (by decide)
  have hafter : r.after.toList.count '@' = 0 :=
    List.count_eq_zero.2 fun h => absurd (hr.after _ h) (by decide)
  cases hslot : r.slot with
  | none => simp [source, placeholder, hslot, hplain hslot, hbefore]
  | some slot =>
    have hname : slot.name.count '@' = 0 := List.count_eq_zero.2 fun h =>
      absurd (Slot.isNameChar_of_mem_name h) (by decide)
    simp [source_toList_of_slot hslot, hbefore, hafter, hname]

namespace Builtin

theorem IsRow.count_mark_le_one {width : String} {r : Row} (hw : IsWidth width)
    (h : IsRow width r) : (r.source.toList ++ ['\n']).count '@' ≤ 1 := by
  cases h with
  | plain ht => exact (readsBack_plain ht).count_mark_le_one fun _ => rfl
  | caption hk => exact (readsBack_caption hk).count_mark_le_one (by simp [Builtin.caption])
  | image hk => exact (readsBack_image hk hw).count_mark_le_one (by simp [Builtin.image])

/-- What a slide in a built-in layout loses depends on the number of its plots alone. -/
theorem isDecided {l : Layout} {line : List Char} (hl : l ∈ Registry.builtin.layouts)
    (hline : line ∈ lines l.source.toList) (n : Nat) : IsDecided n line := by
  obtain ⟨plots, rows, h⟩ := exists_hasMiddle hl
  have hw := isWidth_imageWidth l.capacity
  rw [h.eq_frame, frame, lines_ofRows (newline_not_mem_frame h.middle hw)] at hline
  obtain ⟨r, hr, rfl⟩ := List.mem_map.1 hline
  have hhead : ∀ r ∈ head, (r.source.toList ++ ['\n']).count '@' ≤ 1 := by decide
  have hfoot : ∀ r ∈ foot, (r.source.toList ++ ['\n']).count '@' ≤ 1 := by decide
  have hrows : ∀ r ∈ head ++ rows ++ foot, (r.source.toList ++ ['\n']).count '@' ≤ 1 :=
    List.forall_mem_append.2 ⟨List.forall_mem_append.2
      ⟨hhead, fun r hr => (isRow_of_middle h.middle r hr).count_mark_le_one hw⟩, hfoot⟩
  exact isDecided_of_count_mark_le_one (hrows r hr) n

end Builtin

end PlotDeck

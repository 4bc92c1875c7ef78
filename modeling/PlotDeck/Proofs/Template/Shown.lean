import Mathlib.Data.List.Induction
import PlotDeck.Proofs.Template.Filling
import PlotDeck.Proofs.Template.Kept
import PlotDeck.Proofs.Template.Value
import PlotDeck.Proofs.Text.Line

/-!
# Which plots a slide shows

A layout **shows** a slot when some template line that it keeps holds the slot and nothing behind it
on that line, in particular no directive of an unfilled plot, takes its value off again. Then the
value stands in the rendered text (`Layout.Shows.isInfix`); and where the value ends with a
character that stands nowhere else, this is the only way for it to get there
(`Layout.shows_of_mem`). A layout shows a plot if it has a line for it on which no plot is missing
(`Layout.shows_of_line`).

A layout with a place for every plot need not show every plot: the rest of a line can be lost
together with an unfilled path.
-/

namespace PlotDeck

open Template Text

namespace Template

/-! ### What lasts on a line -/

section Lasts

variable {value? : Slot → Option (List Char)} {toks rest : List Token} {slot : Slot}

/-- The line after these tokens. -/
def filled (value? : Slot → Option (List Char)) (toks : List Token) : Filling :=
  toks.foldl (Filling.add value?) .start

theorem filled_append_singleton (value? : Slot → Option (List Char)) (toks : List Token)
    (t : Token) : filled value? (toks ++ [t]) = (filled value? toks).add value? t := by
  rw [filled, List.foldl_append]
  rfl

/-- What is written after some tokens **lasts** over further tokens if the line is never cut back
further than to its end. -/
def Lasts (value? : Slot → Option (List Char)) (toks rest : List Token) : Prop :=
  ∀ mid, mid <+: rest → (filled value? toks).text.length ≤ (filled value? (toks ++ mid)).text.length

theorem Lasts.nil : Lasts value? toks [] := by
  intro mid hmid
  obtain rfl := List.prefix_nil.1 hmid
  simp

/-- A text that lasts over some tokens lasts over one more if that does not cut it back. -/
theorem Lasts.concat {t : Token} (h : Lasts value? toks rest)
    (ht : (filled value? toks).text.length ≤ (filled value? (toks ++ (rest ++ [t]))).text.length) :
    Lasts value? toks (rest ++ [t]) := by
  intro mid hmid
  rcases List.prefix_concat_iff.1 hmid with rfl | hmid
  · exact ht
  · exact h mid hmid

/-- A text that lasts stands at the start of the line. -/
theorem Lasts.text_isPrefix (h : Lasts value? toks rest) :
    (filled value? toks).text <+: (filled value? (toks ++ rest)).text := by
  -- tokens are added at the end, so the induction takes them off there
  induction rest using List.reverseRecOn with
  | nil => simp
  | append_singleton rest t ih =>
    have hfirst := ih fun mid hmid => h mid (hmid.trans (List.prefix_append _ _))
    have hlength := h (rest ++ [t]) (List.prefix_refl _)
    rw [← List.append_assoc, filled_append_singleton] at hlength ⊢
    rcases (Filling.step_add value? (filled value? (toks ++ rest)) t).text with ⟨w, hw⟩ | hcut
    · rw [hw]
      exact hfirst.trans (List.prefix_append _ _)
    · exact List.prefix_of_prefix_length_le hfirst hcut hlength

/-- One of these tokens writes the slot, its value ends at position `stop` of the line, and it
lasts. -/
def ShowsAt (value? : Slot → Option (List Char)) (slot : Slot) (toks : List Token) (stop : Nat) :
    Prop :=
  ∃ pre name post, toks = pre ++ .placeholder name :: post ∧ Slot.ofName? name = some slot ∧
    (filled value? (pre ++ [.placeholder name])).text.length = stop ∧
    Lasts value? (pre ++ [.placeholder name]) post

/-- One of these tokens writes the slot, and its value lasts. -/
def Shows (value? : Slot → Option (List Char)) (slot : Slot) (toks : List Token) : Prop :=
  ∃ stop, ShowsAt value? slot toks stop

theorem filled_append_value {name v : List Char} (hslot : Slot.ofName? name = some slot)
    (hv : value? slot = some v) :
    (filled value? (toks ++ [.placeholder name])).text = (filled value? toks).text ++ v := by
  rw [filled_append_singleton]
  simp [Filling.add, hslot, Filling.addSlot, hv, Filling.write]

/-- The value of a slot that is shown is a part of the line. -/
theorem Shows.isInfix {v : List Char} (h : Shows value? slot toks) (hv : value? slot = some v) :
    v <:+: (filled value? toks).text := by
  obtain ⟨stop, pre, name, post, rfl, hslot, -, hlasts⟩ := h
  have hfirst := hlasts.text_isPrefix
  rw [filled_append_value hslot hv, List.append_assoc, List.singleton_append] at hfirst
  exact (List.suffix_append _ v).isInfix.trans hfirst.isInfix

theorem ShowsAt.concat {stop : Nat} {t : Token} (h : ShowsAt value? slot toks stop)
    (hstop : stop ≤ (filled value? (toks ++ [t])).text.length) :
    ShowsAt value? slot (toks ++ [t]) stop := by
  obtain ⟨pre, name, post, rfl, hslot, rfl, hlasts⟩ := h
  refine ⟨pre, name, post ++ [t], by simp, hslot, rfl, hlasts.concat ?_⟩
  simpa using hstop

/-! ### Values that can be told apart -/

/-- The character **ends only** the value of this slot: it stands neither elsewhere in the value nor
in the value of any other slot. -/
structure EndsOnly (value? : Slot → Option (List Char)) (slot : Slot) (c : Char) : Prop where
  /-- The value ends with the character and does not hold it before. -/
  value : ∃ u, value? slot = some (u ++ [c]) ∧ c ∉ u
  /-- Other values do not hold the character. -/
  others : ∀ slot' v, slot' ≠ slot → value? slot' = some v → c ∉ v

/-- Where the character is found, the slot is shown. -/
theorem EndsOnly.showsAt {c : Char} (hc : EndsOnly value? slot c) (htoks : ∀ t ∈ toks, c ∉ t.text)
    {j : Nat} (hj : (filled value? toks).text[j]? = some c) :
    ShowsAt value? slot toks (j + 1) := by
  induction toks using List.reverseRecOn with
  | nil => simp [filled, Filling.start] at hj
  | append_singleton toks t ih =>
    have ih := ih fun t' ht' => htoks t' (List.mem_append_left _ ht')
    have htext : c ∉ t.text := htoks t (by simp)
    have hlength := (List.getElem?_eq_some_iff.1 hj).1
    have hstep := Filling.step_add value? (filled value? toks) t
    rw [← filled_append_singleton] at hstep
    -- a character that was there before the last token is there because the slot is shown
    have hold : (filled value? toks).text[j]? = some c →
        ShowsAt value? slot (toks ++ [t]) (j + 1) := fun h => (ih h).concat hlength
    have hadded : ∀ {w}, ((filled value? toks).text ++ w)[j]? = some c → c ∉ w →
        ShowsAt value? slot (toks ++ [t]) (j + 1) := by
      intro w hw hcw
      rw [List.getElem?_append] at hw
      split at hw
      · exact hold hw
      · exact absurd (List.mem_of_getElem? hw) hcw
    generalize hafter : filled value? (toks ++ [t]) = after at hstep hj
    cases hstep with
    | @value name slot' v hslot hv =>
      by_cases heq : slot' = slot
      · obtain rfl := heq
        obtain ⟨u, hu, hcu⟩ := hc.value
        obtain rfl : v = u ++ [c] := Option.some.inj (hv.symm.trans hu)
        by_cases hbefore : j < ((filled value? toks).text ++ u).length
        · have hj : ((filled value? toks).text ++ u ++ [c])[j]? = some c := by
            simpa [Filling.write] using hj
          rw [List.getElem?_append_left hbefore] at hj
          exact hadded hj hcu
        · -- this is the character that ends the value just written
          refine ⟨toks, name, [], rfl, hslot, ?_, Lasts.nil⟩
          rw [filled_append_value hslot hv] at hlength ⊢
          simp only [List.length_append, List.length_singleton] at hbefore hlength ⊢
          omega
      · exact hadded hj (hc.others slot' v heq hv)
    | copy => exact hadded hj htext
    | literal u =>
      refine hadded hj ?_
      split
      · exact fun h => htext ((Filling.afterClosing_suffix u).subset h)
      · exact htext
    | caption => exact hadded hj List.not_mem_nil
    | cut _ _ hcut =>
      obtain ⟨w, hw⟩ := cutEmbed?_isPrefix hcut
      refine hold ?_
      rw [← hw, List.getElem?_append_left (List.getElem?_eq_some_iff.1 hj).1]
      exact hj
    | drop => exact hold hj

/-- A line with the character shows the slot. -/
theorem EndsOnly.shows {c : Char} (hc : EndsOnly value? slot c) (htoks : ∀ t ∈ toks, c ∉ t.text)
    (h : c ∈ (filled value? toks).text) : Shows value? slot toks := by
  obtain ⟨j, hj⟩ := List.mem_iff_getElem?.1 h
  exact ⟨j + 1, hc.showsAt htoks hj⟩

/-! ### Lines on which nothing is missing -/

/-- A line **holds** a slot if one of its placeholders names it. -/
def Holds (slot : Slot) (toks : List Token) : Prop :=
  ∃ name, .placeholder name ∈ toks ∧ Slot.ofName? name = some slot

/-- Where no path is missing, a line is only ever lengthened, and never dropped. -/
theorem filled_append_of_paths (toks : List Token)
    (hpaths : ∀ k, Holds (.plotPath k) rest → (value? (.plotPath k)).isSome) :
    (filled value? toks).text <+: (filled value? (toks ++ rest)).text ∧
      (filled value? (toks ++ rest)).dropped = (filled value? toks).dropped := by
  induction rest using List.reverseRecOn with
  | nil => simp
  | append_singleton rest t ih =>
    have hrest : ∀ k, Holds (.plotPath k) rest → (value? (.plotPath k)).isSome := by
      rintro k ⟨name, hname, hslot⟩
      exact hpaths k ⟨name, List.mem_append_left _ hname, hslot⟩
    obtain ⟨hfirst, hdropped⟩ := ih hrest
    have hmissing : ∀ {name k}, t = .placeholder name → Slot.ofName? name = some (.plotPath k) →
        value? (.plotPath k) ≠ none := by
      rintro name k rfl hslot hv
      have hsome := hpaths k ⟨name, by simp, hslot⟩
      simp [hv] at hsome
    have hstep := Filling.step_add value? (filled value? (toks ++ rest)) t
    rw [← filled_append_singleton, List.append_assoc] at hstep
    -- only a missing path cuts the line back or drops it
    generalize filled value? (toks ++ (rest ++ [t])) = after at hstep
    cases hstep with
    | value | copy | literal | caption => exact ⟨hfirst.trans (List.prefix_append _ _), hdropped⟩
    | cut hslot hv => exact absurd hv (hmissing rfl hslot)
    | drop hslot hv => exact absurd hv (hmissing rfl hslot)

/-- Where no path is missing, every slot on the line is shown. -/
theorem shows_of_paths (h : Holds slot toks)
    (hpaths : ∀ k, Holds (.plotPath k) toks → (value? (.plotPath k)).isSome) :
    Shows value? slot toks := by
  obtain ⟨name, hname, hslot⟩ := h
  obtain ⟨pre, post, rfl⟩ := List.append_of_mem hname
  refine ⟨_, pre, name, post, rfl, hslot, rfl, fun mid hmid => ?_⟩
  refine (filled_append_of_paths _ fun k hk => hpaths k ?_).1.length_le
  obtain ⟨other, hother, hk⟩ := hk
  exact ⟨other, List.mem_append_right _ (List.mem_cons_of_mem _ (hmid.subset hother)), hk⟩

end Lasts

end Template

/-! ### Shown slots of a layout -/

namespace Layout

variable {l : Layout} {s : Slide} {out : String} {slot : Slot} {v : List Char}

/-- A layout **shows** a slot if one of the lines that it keeps does. -/
def Shows (l : Layout) (s : Slide) (slot : Slot) : Prop :=
  ∃ line ∈ l.keptSources s, Template.Shows s.value? slot (lex line)

/-- The value of a slot that is shown stands in the rendered text. -/
theorem Shows.isInfix (h : l.Shows s slot) (hv : s.value? slot = some v)
    (hout : l.render s = .ok out) : v <:+: out.toList := by
  obtain ⟨line, hline, hshows⟩ := h
  have htext : v <:+: (fillLine s.value? line).text := hshows.isInfix hv
  rw [toList_of_render hout, List.flatMap_def]
  exact htext.trans (List.infix_of_mem_flatten (List.mem_map_of_mem hline))

/-- No token of a line holds a character that the template does not hold. -/
theorem not_mem_text_of_not_mem_source {c : Char} {line : List Char} (hc : c ∉ l.source.toList)
    (hline : line ∈ lines l.source.toList) : ∀ t ∈ lex line, c ∉ t.text := by
  intro t ht hmem
  have htoken : c ∈ line := by
    rw [← flatMap_text_lex line]
    exact List.mem_flatMap.2 ⟨t, ht, hmem⟩
  refine hc ?_
  rw [← flatten_lines l.source.toList]
  exact List.mem_flatten.2 ⟨line, hline, htoken⟩

/-- A character that ends only the value of one slot comes from a slot that is shown. -/
theorem shows_of_mem {c : Char} (hc : EndsOnly s.value? slot c) (hsource : c ∉ l.source.toList)
    (hout : l.render s = .ok out) (hmem : c ∈ out.toList) : l.Shows s slot := by
  rw [toList_of_render hout] at hmem
  obtain ⟨line, hline, hmem⟩ := List.mem_flatMap.1 hmem
  have htokens := not_mem_text_of_not_mem_source hsource (mem_lines_of_mem_keptSources hline)
  exact ⟨line, hline, hc.shows htokens hmem⟩

/-- A line on which no path is missing shows every slot with visible text. -/
theorem shows_of_line {line : List Char} (hline : line ∈ lines l.source.toList)
    (hslot : Holds slot (lex line)) (hv : s.value? slot = some v)
    (hvisible : ∃ c ∈ v, isBlank c = false ∧ c ≠ '\\')
    (hpaths : ∀ j, Holds (.plotPath j) (lex line) → (s.value? (.plotPath j)).isSome) :
    l.Shows s slot := by
  have hshows := shows_of_paths hslot hpaths
  obtain ⟨c, hcv, hblank, hc⟩ := hvisible
  have htrim : c ∈ trim (fillLine s.value? line).text :=
    mem_trim hblank ((hshows.isInfix hv).subset hcv)
  have hdropped : (fillLine s.value? line).dropped = false :=
    (filled_append_of_paths [] hpaths).2
  have hremoved : (fillLine s.value? line).isRemoved = false := by
    simp [Line.isRemoved, hdropped, List.ne_nil_of_mem htrim]
  have hbreak : (fillLine s.value? line).isBreak = false := by
    rw [Line.isBreak, beq_eq_false_iff_ne]
    intro h
    rw [h] at htrim
    exact hc (by simpa [Template.lineBreak] using htrim)
  exact ⟨line, mem_keptSources hline hremoved hbreak, hshows⟩

/-- **Shown plots**: the path of a plot that is shown stands in the rendered text. If the path ends
with a character that stands nowhere else, it stands there only then. And a plot is shown if its
path has visible text and there is a line for it on which no plot is missing. -/
theorem path_infix_render {k : Nat} {p : Plot} (hout : l.render s = .ok out)
    (hp : s.plots[k]? = some p) :
    (l.Shows s (.plotPath (k + 1)) → p.path.toList <:+: out.toList) ∧
    (∀ c, EndsOnly s.value? (.plotPath (k + 1)) c → c ∉ l.source.toList →
      (p.path.toList <:+: out.toList ↔ l.Shows s (.plotPath (k + 1)))) ∧
    (∀ line ∈ lines l.source.toList, Holds (.plotPath (k + 1)) (lex line) →
      (∀ j, Holds (.plotPath j) (lex line) → (s.value? (.plotPath j)).isSome) →
      (∃ c ∈ p.path.toList, isBlank c = false ∧ c ≠ '\\') → l.Shows s (.plotPath (k + 1))) := by
  have hv : s.value? (.plotPath (k + 1)) = some p.path.toList := by simp [Slide.value?, hp]
  have hshown : l.Shows s (.plotPath (k + 1)) → p.path.toList <:+: out.toList :=
    fun h => h.isInfix hv hout
  refine ⟨hshown, fun c hc hsource => ⟨fun h => ?_, hshown⟩, ?_⟩
  · obtain ⟨u, hu, -⟩ := hc.value
    have hpath : p.path.toList = u ++ [c] := Option.some.inj (hv.symm.trans hu)
    exact shows_of_mem hc hsource hout (h.subset (by simp [hpath]))
  · exact fun line hline hslot hpaths hvisible => shows_of_line hline hslot hv hvisible hpaths

/-- A line with its only plot filled shows that plot. -/
theorem path_infix_render_of_single_line :
    ∃ out, Layout.render ⟨"custom", 1, "@PLOT1\n"⟩ { title := "T", plots := [⟨"a.pdf", ""⟩] }
      = .ok out ∧ "a.pdf".toList <:+: out.toList := by
  have hlines : lines "@PLOT1\n".toList = ["@PLOT1\n".toList] := by decide
  have hlex : lex "@PLOT1\n".toList = [.placeholder "PLOT1".toList, .newline] := by
    change lex ('@' :: ("PLOT1".toList ++ ['\n'])) = _
    rw [lex_placeholder_append (by decide) (by decide), lex_newline_cons, lex_nil]
  have hname : Slot.ofName? "PLOT1".toList = some (.plotPath 1) := by decide
  obtain ⟨out, hout, -⟩ := exists_render (l := ⟨"custom", 1, "@PLOT1\n"⟩)
    (s := { title := "T", plots := [⟨"a.pdf", ""⟩] }) (by decide)
  obtain ⟨hshown, -, hline⟩ := path_infix_render hout (k := 0) rfl
  refine ⟨out, hout, hshown (hline "@PLOT1\n".toList (hlines ▸ List.mem_cons_self) ?_ ?_
    ⟨'a', by decide, by decide, by decide⟩)⟩
  · rw [hlex]
    exact ⟨_, List.mem_cons_self, hname⟩
  · rw [hlex]
    rintro j ⟨name, hmem, hslot⟩
    obtain rfl : name = "PLOT1".toList := by simpa using hmem
    obtain rfl : 1 = j := Slot.plotPath.inj (Option.some.inj (hname.symm.trans hslot))
    rfl

/-- A place for every plot is not enough: the path of the first plot is lost with the line on which
the second one is missing. -/
theorem path_lost :
    ¬∀ (l : Layout) (s : Slide) (out : String),
      (∀ k, 0 < k → k ≤ l.capacity →
        ∃ line ∈ lines l.source.toList, Holds (.plotPath k) (lex line)) →
      l.render s = .ok out → ∀ p ∈ s.plots, p.path.toList <:+: out.toList := by
  intro hclaim
  have hlines : lines "@PLOT1 @PLOT2\n".toList = ["@PLOT1 @PLOT2\n".toList] := by decide
  have hlex : lex "@PLOT1 @PLOT2\n".toList
      = [.placeholder "PLOT1".toList, .literal [' '], .placeholder "PLOT2".toList, .newline] := by
    change lex ('@' :: ("PLOT1".toList ++ ([' '] ++ '@' :: ("PLOT2".toList ++ ['\n'])))) = _
    rw [lex_placeholder_append (by decide) (by decide),
      lex_literal_append (by decide) (by decide) (by decide),
      lex_placeholder_append (by decide) (by decide), lex_newline_cons, lex_nil]
  have hplaces : ∀ k, 0 < k → k ≤ 2 →
      ∃ line ∈ lines "@PLOT1 @PLOT2\n".toList, Holds (.plotPath k) (lex line) := by
    intro k hk hle
    refine ⟨_, hlines ▸ List.mem_cons_self, ?_⟩
    rw [hlex]
    obtain rfl | rfl : k = 1 ∨ k = 2 := by omega
    · exact ⟨"PLOT1".toList, by decide, by decide⟩
    · exact ⟨"PLOT2".toList, by decide, by decide⟩
  have hout : Layout.render ⟨"custom", 2, "@PLOT1 @PLOT2\n"⟩
      { title := "T", plots := [⟨"a.pdf", ""⟩] } = .ok "" := by
    rw [render, fill, hlines, List.map_singleton, fillLine, hlex]
    rfl
  have hlost := hclaim _ _ _ hplaces hout ⟨"a.pdf", ""⟩ List.mem_cons_self
  exact absurd hlost (by decide)

end Layout

end PlotDeck

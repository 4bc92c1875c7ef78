import PlotDeck.Proofs.Template.Filling
import PlotDeck.Proofs.Template.Kept
import PlotDeck.Proofs.Template.Token
import PlotDeck.Proofs.Template.Value
import PlotDeck.Proofs.Text.Braces

/-!
# Braces around erased directives

When the directive of an unfilled plot is cut, the opening brace of its path goes with it, and the
closing brace goes if it follows directly behind the placeholder. An `Erasure` records both, and its
**surplus** says how many braces more are taken off than are closed again. Of a template whose lines
are balanced, filled with balanced strings, the rendered text closes as many braces too many as its
erasures have in surplus (`Layout.depth_render`); so it is balanced when no erasure has a surplus
(`Layout.balanced_render`).

Text between a placeholder and the closing brace keeps the brace.
-/

namespace PlotDeck

open Template Text

namespace Template

/-- Whether the next token starts, after blanks, with a closing brace. -/
def closes : List Token → Bool
  | .literal u :: _ => (trimStart u).head? == some '\x7d'
  | _ => false

/-- A directive that has been cut. -/
structure Erasure where
  /-- The directive up to the placeholder, with the opening brace of the path. -/
  header : List Char
  /-- Whether the closing brace of the path goes too. -/
  closed : Bool
deriving DecidableEq, Repr

/-- How many braces an erasure takes off more than it closes again. -/
def Erasure.surplus (e : Erasure) : Int := depth e.header - if e.closed then 1 else 0

/-- How many braces these erasures take off more than they close again. -/
def totalSurplus : List Erasure → Int
  | [] => 0
  | e :: es => e.surplus + totalSurplus es

@[simp] theorem totalSurplus_nil : totalSurplus [] = 0 := rfl

theorem totalSurplus_cons (e : Erasure) (es : List Erasure) :
    totalSurplus (e :: es) = e.surplus + totalSurplus es := rfl

theorem totalSurplus_append (es es' : List Erasure) :
    totalSurplus (es ++ es') = totalSurplus es + totalSurplus es' := by
  induction es with
  | nil => simp
  | cons e es ih => rw [List.cons_append, totalSurplus_cons, totalSurplus_cons, ih, Int.add_assoc]

theorem totalSurplus_nonneg {es : List Erasure} (h : ∀ e ∈ es, 0 ≤ e.surplus) :
    0 ≤ totalSurplus es := by
  induction es with
  | nil => simp
  | cons e es ih =>
    obtain ⟨he, hes⟩ := List.forall_mem_cons.1 h
    have hrest := ih hes
    rw [totalSurplus_cons]
    omega

/-- Where no erasure closes too much, the surplus is only made up for by having none. -/
theorem totalSurplus_eq_zero_iff {es : List Erasure} (h : ∀ e ∈ es, 0 ≤ e.surplus) :
    totalSurplus es = 0 ↔ ∀ e ∈ es, e.surplus = 0 := by
  induction es with
  | nil => simp
  | cons e es ih =>
    obtain ⟨he, hes⟩ := List.forall_mem_cons.1 h
    have hrest := totalSurplus_nonneg hes
    rw [totalSurplus_cons, List.forall_mem_cons, ← ih hes]
    omega

theorem totalSurplus_eq_zero {es : List Erasure} (h : ∀ e ∈ es, e.surplus = 0) :
    totalSurplus es = 0 :=
  (totalSurplus_eq_zero_iff fun e he => Int.le_of_eq (h e he).symm).2 h

namespace Filling

/-- The directives that are cut while these tokens are added. -/
def erasures (value? : Slot → Option (List Char)) : Filling → List Token → List Erasure
  | _, [] => []
  | f, t :: ts =>
    let f' := f.add value? t
    (if f'.closing then [⟨f.text.drop f'.text.length, closes ts⟩] else []) ++ erasures value? f' ts

/-- The depth that the line has reached, once the closing brace of a directive that has just been
cut is gone. -/
def level (f : Filling) (toks : List Token) : Int :=
  depth f.text + if f.closing && closes toks then 1 else 0

variable {value? : Slot → Option (List Char)} {f : Filling} {t : Token} {ts : List Token}

theorem level_of_closing_eq_false (hf : f.closing = false) : f.level ts = depth f.text := by
  simp [level, hf]

theorem level_of_closes_eq_false (ht : closes ts = false) : f.level ts = depth f.text := by
  simp [level, ht]

/-- The closing brace behind a cut directive goes together with the blanks before it. -/
theorem afterClosing_cases (u : List Char) :
    (∃ w r, u = w ++ '\x7d' :: r ∧ depth w = 0 ∧ afterClosing u = r ∧
      (trimStart u).head? = some '\x7d') ∨
    (afterClosing u = u ∧ (trimStart u).head? ≠ some '\x7d') := by
  have hsplit := List.takeWhile_append_dropWhile (p := isBlank) (l := u)
  have hblank := List.all_eq_true.1 (List.all_takeWhile (p := isBlank) (l := u))
  unfold afterClosing
  split
  · next r hr =>
    refine .inl ⟨u.takeWhile isBlank, r, ?_, depth_eq_zero_of_not_mem ?_ ?_, rfl, by simp [hr]⟩
    · rw [← hr, trimStart, hsplit]
    · exact fun h => absurd (hblank _ h) (by decide)
    · exact fun h => absurd (hblank _ h) (by decide)
  · next hne =>
    refine .inr ⟨rfl, fun h => ?_⟩
    obtain ⟨r, hr⟩ := List.head?_eq_some_iff.1 h
    exact hne r hr

/-- What literal text adds to a line, told by its level before. -/
theorem depth_literal (f : Filling) (u : List Char) (ts : List Token) :
    depth f.text + depth (if f.closing then afterClosing u else u)
      = f.level (.literal u :: ts) + depth u := by
  cases hf : f.closing with
  | false => simp [level_of_closing_eq_false hf]
  | true =>
    rcases afterClosing_cases u with ⟨w, r, rfl, hw, hafter, hhead⟩ | ⟨hafter, hhead⟩
    · have hbrace : depth ['\x7d'] = -1 := by decide
      have hdepth : depth (w ++ '\x7d' :: r) = depth r - 1 := by
        rw [depth_append, hw, ← List.singleton_append, depth_append, hbrace]
        omega
      have hlevel : f.level (.literal (w ++ '\x7d' :: r) :: ts) = depth f.text + 1 := by
        simp [level, hf, closes, hhead]
      rw [if_pos rfl, hafter, hlevel, hdepth]
      omega
    · have hlevel : f.level (.literal u :: ts) = depth f.text :=
        level_of_closes_eq_false (by simp [closes, hhead])
      rw [if_pos rfl, hafter, hlevel]

theorem staysUp_literal {u : List Char} (hsource : StaysUp (f.level (.literal u :: ts)) u) :
    StaysUp (depth f.text) (if f.closing then afterClosing u else u) := by
  cases hf : f.closing with
  | false => simpa [level_of_closing_eq_false hf] using hsource
  | true =>
    rw [if_pos rfl]
    rcases afterClosing_cases u with ⟨w, r, rfl, hw, hafter, hhead⟩ | ⟨hafter, hhead⟩
    · have hlevel : f.level (.literal (w ++ '\x7d' :: r) :: ts) = depth f.text + 1 := by
        simp [level, hf, closes, hhead]
      have hbrace : depth ['\x7d'] = -1 := by decide
      rw [hlevel, ← List.singleton_append, ← List.append_assoc, StaysUp.append_iff, depth_append,
        hw, hbrace] at hsource
      rw [hafter]
      convert hsource.2 using 1
      omega
    · rw [level_of_closes_eq_false (by simp [closes, hhead])] at hsource
      rw [hafter]
      exact hsource

/-- The placeholders among these tokens hold no braces. -/
def PlainNames (toks : List Token) : Prop :=
  ∀ name, .placeholder name ∈ toks → depth ('@' :: name) = 0

/-- Braces are accounted for token by token: the level moves with the template, but for the surplus
of a directive that is cut. -/
theorem level_add (hvalues : ∀ slot v, value? slot = some v → Balanced v)
    (hnames : PlainNames (t :: ts)) :
    (f.add value? t).level ts = f.level (t :: ts) + depth t.text
      - totalSurplus (if (f.add value? t).closing then
          [⟨f.text.drop (f.add value? t).text.length, closes ts⟩] else []) := by
  have hname : ∀ {name}, t = .placeholder name → depth t.text = 0 ∧ closes (t :: ts) = false := by
    rintro name rfl
    exact ⟨hnames name List.mem_cons_self, rfl⟩
  have hstep := step_add value? f t
  generalize f.add value? t = f' at hstep
  cases hstep with
  | value hslot hv =>
    obtain ⟨hdepth, hcloses⟩ := hname rfl
    rw [level_of_closing_eq_false rfl, level_of_closes_eq_false hcloses, hdepth]
    simp [write, depth_append, (hvalues _ _ hv).depth_eq]
  | copy ht =>
    have hcloses : closes (t :: ts) = false := by
      cases t with
      | literal u => exact absurd rfl (ht u)
      | _ => rfl
    rw [level_of_closing_eq_false rfl, level_of_closes_eq_false hcloses]
    simp [write, depth_append]
  | literal u =>
    rw [level_of_closing_eq_false rfl]
    simp [write, depth_append, depth_literal f u ts, Token.text]
  | caption hslot hv =>
    obtain ⟨hdepth, hcloses⟩ := hname rfl
    rw [level_of_closing_eq_false rfl, level_of_closes_eq_false hcloses, hdepth]
    simp [write]
  | @cut name k before hslot hv hcut =>
    -- the header is off the line; its closing brace counts as gone if the next token starts with it
    obtain ⟨hdepth, hcloses⟩ := hname rfl
    obtain ⟨header, hheader⟩ := cutEmbed?_isPrefix hcut
    have htext : depth f.text = depth before + depth header := by rw [← hheader, depth_append]
    rw [level_of_closes_eq_false hcloses, hdepth, htext, ← hheader, List.drop_left]
    simp only [level, Bool.true_and, if_true, totalSurplus_cons, totalSurplus_nil, Erasure.surplus]
    omega
  | drop hslot hv hcut =>
    obtain ⟨hdepth, hcloses⟩ := hname rfl
    rw [level_of_closing_eq_false rfl, level_of_closes_eq_false hcloses, hdepth]
    simp

/-- A token keeps the line up where it keeps the template up. -/
theorem staysUp_add (hvalues : ∀ slot v, value? slot = some v → Balanced v)
    (hup : StaysUp 0 f.text) (hsource : StaysUp (f.level (t :: ts)) t.text) :
    StaysUp 0 (f.add value? t).text := by
  have hground := hup.nonneg_add
  have hstep := step_add value? f t
  generalize f.add value? t = f' at hstep
  cases hstep with
  | value hslot hv =>
    exact StaysUp.append_iff.2 ⟨hup, (hvalues _ _ hv).staysUp.of_zero hground⟩
  | copy ht =>
    have hcloses : closes (t :: ts) = false := by
      cases t with
      | literal u => exact absurd rfl (ht u)
      | _ => rfl
    rw [level_of_closes_eq_false hcloses, ← Int.zero_add (depth f.text)] at hsource
    exact StaysUp.append_iff.2 ⟨hup, hsource⟩
  | literal u =>
    have hliteral := staysUp_literal hsource
    rw [← Int.zero_add (depth f.text)] at hliteral
    exact StaysUp.append_iff.2 ⟨hup, hliteral⟩
  | caption => exact StaysUp.append_iff.2 ⟨hup, Balanced.nil.staysUp.of_zero hground⟩
  | cut _ _ hcut => exact hup.of_isPrefix (cutEmbed?_isPrefix hcut)
  | drop => exact hup

/-- The braces of a run of tokens. -/
theorem depth_foldl (hvalues : ∀ slot v, value? slot = some v → Balanced v)
    (hnames : PlainNames ts) (f : Filling) :
    depth (ts.foldl (Filling.add value?) f).text
      = f.level ts + depth (ts.flatMap Token.text)
        - totalSurplus (f.erasures value? ts) := by
  induction ts generalizing f with
  | nil => simp [level, closes, erasures]
  | cons t ts ih =>
    have hrest : PlainNames ts := fun name h => hnames name (List.mem_cons_of_mem t h)
    have hadd := level_add (f := f) hvalues hnames
    rw [List.foldl_cons, ih hrest, hadd, List.flatMap_cons, depth_append, erasures,
      totalSurplus_append]
    omega

/-- A run of tokens without surplus keeps the line up where it keeps the template up. -/
theorem staysUp_foldl (hvalues : ∀ slot v, value? slot = some v → Balanced v)
    (hnames : PlainNames ts) (f : Filling) (hup : StaysUp 0 f.text)
    (hsource : StaysUp (f.level ts) (ts.flatMap Token.text))
    (hsurplus : ∀ e ∈ f.erasures value? ts, e.surplus = 0) :
    StaysUp 0 (ts.foldl (Filling.add value?) f).text := by
  induction ts generalizing f with
  | nil => exact hup
  | cons t ts ih =>
    have hrest : PlainNames ts := fun name h => hnames name (List.mem_cons_of_mem t h)
    rw [List.flatMap_cons, StaysUp.append_iff] at hsource
    obtain ⟨hhead, htail⟩ := hsource
    rw [erasures, List.forall_mem_append] at hsurplus
    -- without surplus the level follows the template, so the rest starts where the template is
    have hadd := level_add (f := f) hvalues hnames
    rw [totalSurplus_eq_zero hsurplus.1, Int.sub_zero] at hadd
    rw [← hadd] at htail
    exact ih hrest _ (staysUp_add hvalues hup hhead) htail hsurplus.2

end Filling

/-! ### Lines -/

section Line

variable {value? : Slot → Option (List Char)} {line : List Char}

/-- The directives that are cut while a line is filled. -/
def lineErasures (value? : Slot → Option (List Char)) (line : List Char) : List Erasure :=
  Filling.start.erasures value? (lex line)

theorem plainNames_lex (line : List Char) : Filling.PlainNames (lex line) := by
  intro name hname
  have hchars := isNameChar_of_mem_lex hname
  refine depth_eq_zero_of_not_mem ?_ ?_ <;> rw [List.mem_cons, not_or]
  · exact ⟨by decide, fun h => absurd (hchars _ h) (by decide)⟩
  · exact ⟨by decide, fun h => absurd (hchars _ h) (by decide)⟩

/-- A balanced line is filled to a text that closes as many braces too many as its erasures have in
surplus. -/
theorem depth_fillLine (hvalues : ∀ slot v, value? slot = some v → Balanced v)
    (hline : Balanced line) :
    depth (fillLine value? line).text = -totalSurplus (lineErasures value? line) := by
  have hrun := Filling.depth_foldl hvalues (plainNames_lex line) .start
  rw [flatMap_text_lex, hline.depth_eq, Filling.level_of_closing_eq_false rfl] at hrun
  rw [fillLine, hrun]
  simp [Filling.start, lineErasures]

/-- A balanced line without surplus stays balanced. -/
theorem balanced_fillLine (hvalues : ∀ slot v, value? slot = some v → Balanced v)
    (hline : Balanced line) (hsurplus : ∀ e ∈ lineErasures value? line, e.surplus = 0) :
    Balanced (fillLine value? line).text where
  staysUp := by
    refine Filling.staysUp_foldl hvalues (plainNames_lex line) .start Balanced.nil.staysUp ?_
      hsurplus
    rw [flatMap_text_lex, Filling.level_of_closing_eq_false rfl]
    exact hline.staysUp
  depth_eq := by rw [depth_fillLine hvalues hline, totalSurplus_eq_zero hsurplus, Int.neg_zero]

end Line

end Template

/-! ### Rendered slides -/

theorem Slide.balanced_values {s : Slide} (hs : ∀ t ∈ s.strings, Balanced t.toList) :
    ∀ slot v, s.value? slot = some v → Balanced v := by
  intro slot v hv
  rcases Slide.value?_cases hv with rfl | ⟨t, ht, rfl⟩
  · exact Balanced.nil
  · exact hs t ht

namespace Layout

/-- The directives that are cut on the lines that stay. -/
def erasures (l : Layout) (s : Slide) : List Erasure :=
  (l.keptSources s).flatMap (lineErasures s.value?)

variable {l : Layout} {s : Slide} {out : String}

theorem depth_render (hout : l.render s = .ok out)
    (hsource : ∀ line ∈ lines l.source.toList, Balanced line)
    (hs : ∀ t ∈ s.strings, Balanced t.toList) :
    depth out.toList = -totalSurplus (l.erasures s) := by
  have hkept : ∀ line ∈ l.keptSources s, Balanced line := fun line h =>
    hsource line (mem_lines_of_mem_keptSources h)
  rw [toList_of_render hout, erasures]
  generalize l.keptSources s = kept at hkept
  induction kept with
  | nil => rfl
  | cons line ls ih =>
    obtain ⟨hline, hls⟩ := List.forall_mem_cons.1 hkept
    have hrest := ih hls
    have hdepth := depth_fillLine (Slide.balanced_values hs) hline
    rw [List.flatMap_cons, List.flatMap_cons, depth_append, totalSurplus_append, hdepth, hrest]
    omega

theorem balanced_render (hout : l.render s = .ok out)
    (hsource : ∀ line ∈ lines l.source.toList, Balanced line)
    (hs : ∀ t ∈ s.strings, Balanced t.toList)
    (hsurplus : ∀ e ∈ l.erasures s, e.surplus = 0) : Balanced out.toList := by
  rw [toList_of_render hout, List.flatMap_def]
  refine Balanced.flatten fun text htext => ?_
  obtain ⟨line, hline, rfl⟩ := List.mem_map.1 htext
  refine balanced_fillLine (Slide.balanced_values hs)
    (hsource line (mem_lines_of_mem_keptSources hline)) fun e he => ?_
  exact hsurplus e (List.mem_flatMap.2 ⟨line, hline, he⟩)

/-- **Balance**: of a template with balanced lines, filled with balanced strings, the rendered text
closes as many braces too many as its erasures have in surplus. Without surplus it is balanced, and
where no erasure closes more than it takes off, only then. In particular, where each directive that
is cut takes off one brace, the text is balanced exactly when each takes its closing brace along. -/
theorem balanced_render_iff (hout : l.render s = .ok out)
    (hsource : ∀ line ∈ lines l.source.toList, Balanced line)
    (hs : ∀ t ∈ s.strings, Balanced t.toList) :
    depth out.toList = -totalSurplus (l.erasures s) ∧
    ((∀ e ∈ l.erasures s, e.surplus = 0) → Balanced out.toList) ∧
    ((∀ e ∈ l.erasures s, 0 ≤ e.surplus) →
      (Balanced out.toList ↔ ∀ e ∈ l.erasures s, e.surplus = 0)) ∧
    ((∀ e ∈ l.erasures s, depth e.header = 1) →
      (Balanced out.toList ↔ ∀ e ∈ l.erasures s, e.closed = true)) := by
  have hdepth := depth_render hout hsource hs
  have hbalanced := balanced_render hout hsource hs
  have hiff : (∀ e ∈ l.erasures s, 0 ≤ e.surplus) →
      (Balanced out.toList ↔ ∀ e ∈ l.erasures s, e.surplus = 0) := by
    refine fun hnonneg => ⟨fun h => (totalSurplus_eq_zero_iff hnonneg).1 ?_, hbalanced⟩
    have hzero := h.depth_eq
    omega
  refine ⟨hdepth, hbalanced, hiff, fun hheader => ?_⟩
  have hsurplus : ∀ e ∈ l.erasures s, e.surplus = if e.closed then 0 else 1 := by
    intro e he
    rw [Erasure.surplus, hheader e he]
    split <;> rfl
  rw [hiff fun e he => by rw [hsurplus e he]; split <;> decide]
  refine forall₂_congr fun e he => ?_
  rw [hsurplus e he]
  split <;> simp [*]

/-- A directive around a placeholder and more text is cut into its tokens. -/
theorem lex_includegraphics {t : List Char} (hne : t ≠ []) (ht : ∀ c ∈ t, isLiteralChar c = true)
    (hname : ∀ c ∈ t.head?, isNameChar c = false) :
    lex ("\\includegraphics\x7b@PLOT1".toList ++ (t ++ ['\n']))
      = [.literal "\\includegraphics\x7b".toList, .placeholder "PLOT1".toList, .literal t,
          .newline] := by
  have hboundary : ∀ c ∈ (t ++ ['\n']).head?, isNameChar c = false := by
    rwa [List.head?_append_of_ne_nil t hne]
  change lex ("\\includegraphics\x7b".toList ++ '@' :: ("PLOT1".toList ++ (t ++ ['\n']))) = _
  rw [lex_literal_append (by decide) (by decide) (by simp [isLiteralChar]),
    lex_placeholder_append (by decide) hboundary, lex_literal_append hne ht (by decide),
    lex_newline_cons, lex_nil]

/-- A directive without options is cut at the start of a line. -/
theorem add_includegraphics :
    (Filling.start.add (Slide.value? { title := "T" })
        (.literal "\\includegraphics\x7b".toList)).add (Slide.value? { title := "T" })
        (.placeholder "PLOT1".toList)
      = { text := [], heldPlot := true, dropped := false, closing := true } := by
  have hcut : cutEmbed? "\\includegraphics\x7b".toList = some [] := cutEmbed?_command []
  have hname : Slot.ofName? "PLOT1".toList = some (.plotPath 1) := by decide
  exact Filling.add_of_cut hname rfl hcut

/-- A directive that ends right behind its placeholder is cut with its closing brace. -/
theorem balanced_render_of_closed :
    ∃ out, Layout.render ⟨"custom", 1, "\\includegraphics\x7b@PLOT1 \x7d left\n"⟩ { title := "T" }
      = .ok out ∧ Balanced out.toList := by
  have hlines : lines "\\includegraphics\x7b@PLOT1 \x7d left\n".toList
      = ["\\includegraphics\x7b@PLOT1 \x7d left\n".toList] := by decide
  have hlex : lex "\\includegraphics\x7b@PLOT1 \x7d left\n".toList
      = [.literal "\\includegraphics\x7b".toList, .placeholder "PLOT1".toList,
          .literal " \x7d left".toList, .newline] :=
    lex_includegraphics (t := " \x7d left".toList) (by decide) (by decide) (by decide)
  have herasures : lineErasures (Slide.value? { title := "T" })
      "\\includegraphics\x7b@PLOT1 \x7d left\n".toList
      = [⟨"\\includegraphics\x7b".toList, true⟩] := by
    rw [lineErasures, hlex, Filling.erasures, Filling.erasures, add_includegraphics]
    rfl
  obtain ⟨out, hout, -⟩ := exists_render
    (l := ⟨"custom", 1, "\\includegraphics\x7b@PLOT1 \x7d left\n"⟩) (s := { title := "T" })
    (by decide)
  refine ⟨out, hout, (balanced_render_iff hout ?_ (by decide)).2.1 fun e he => ?_⟩
  · rw [hlines]
    decide
  · obtain ⟨line, hline, he⟩ := List.mem_flatMap.1 he
    have hmem := mem_lines_of_mem_keptSources hline
    rw [hlines, List.mem_singleton] at hmem
    rw [hmem, herasures, List.mem_singleton] at he
    rw [he]
    decide

/-- Text between the placeholder and the closing brace keeps the brace: that lines and strings are
balanced is not enough. -/
theorem unbalanced_render :
    ¬∀ (l : Layout) (s : Slide) (out : String), (∀ line ∈ lines l.source.toList, Balanced line) →
      (∀ t ∈ s.strings, Balanced t.toList) → l.render s = .ok out → Balanced out.toList := by
  intro hclaim
  have hlines : lines "\\includegraphics\x7b@PLOT1.pdf\x7d\n".toList
      = ["\\includegraphics\x7b@PLOT1.pdf\x7d\n".toList] := by decide
  have hlex : lex "\\includegraphics\x7b@PLOT1.pdf\x7d\n".toList
      = [.literal "\\includegraphics\x7b".toList, .placeholder "PLOT1".toList,
          .literal ".pdf\x7d".toList, .newline] :=
    lex_includegraphics (t := ".pdf\x7d".toList) (by decide) (by decide) (by decide)
  have hout : Layout.render ⟨"custom", 1, "\\includegraphics\x7b@PLOT1.pdf\x7d\n"⟩ { title := "T" }
      = .ok ".pdf\x7d\n" := by
    rw [render, fill, hlines, List.map_singleton, fillLine, hlex, List.foldl_cons, List.foldl_cons,
      add_includegraphics]
    rfl
  have hbalanced := hclaim _ _ _ (by rw [hlines]; decide) (by decide) hout
  exact absurd hbalanced (by decide)

end Layout

end PlotDeck

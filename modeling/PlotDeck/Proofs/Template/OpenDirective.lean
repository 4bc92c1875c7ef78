import PlotDeck.Proofs.Template.Header
import PlotDeck.Template.Line

/-!
# Open directives

A text ends with an **open directive** when its end can be read as the command of an embed
directive, a header, and the brace of the path, with blanks behind it. There is at most one way to
read it so: no other place in the text can be the start of its directive, and no other part of it
the header (`OpenDirective.instSubsingleton`). The directives that are cut are the open ones
(`cutEmbed?_eq_some_iff_openDirective`), so what is left is a first part of the text
(`cutEmbed?_isPrefix`): an unfilled path cuts a line back to what stands before its open directive,
and does nothing to the text of a line without one (`Filling.erasePath_openDirective`).
-/

namespace PlotDeck.Template

open Text (isBlank)

/-- A way to read the end of a text as an embed directive up to the brace of its path. -/
@[ext]
structure OpenDirective (t : List Char) where
  /-- What stands before the directive. -/
  before : List Char
  /-- What stands between the command and the brace. -/
  header : List Char
  /-- The blanks behind the brace. -/
  blanks : List Char
  isHeader : IsHeader header
  isBlank_blanks : ∀ c ∈ blanks, isBlank c = true
  text_eq : t = before ++ (embedCommand ++ header ++ '\x7b' :: blanks)

namespace OpenDirective

variable {t : List Char}

/-- An open directive is cut off, whichever way its text has been read. -/
theorem cutEmbed?_eq (d : OpenDirective t) : cutEmbed? t = some d.before :=
  calc cutEmbed? t
      = cutEmbed? (d.before ++ (embedCommand ++ d.header ++ '\x7b' :: d.blanks)) :=
        congrArg cutEmbed? d.text_eq
    _ = some d.before := d.isHeader.cutEmbed?_append d.isBlank_blanks d.before

theorem dropWhile_reverse (d : OpenDirective t) :
    t.reverse.dropWhile isBlank
      = '\x7b' :: (d.header.reverse ++ (embedCommand.reverse ++ d.before.reverse)) := by
  have hopening := dropWhile_reverse_opening d.isBlank_blanks d.header d.before
  rwa [← d.text_eq] at hopening

/-- A text ends with at most one open directive. -/
instance instSubsingleton : Subsingleton (OpenDirective t) where
  allEq d d' := by
    -- what is cut off gives the start of the directive, the last character but blanks its brace
    have hbefore : d.before = d'.before :=
      Option.some.inj (d.cutEmbed?_eq.symm.trans d'.cutEmbed?_eq)
    have hheader : d.header = d'.header := by
      have hreverse := d.dropWhile_reverse.symm.trans d'.dropWhile_reverse
      rw [hbefore] at hreverse
      exact List.reverse_injective (List.append_cancel_right (List.cons.inj hreverse).2)
    have hblanks : d.blanks = d'.blanks := by
      have htext := d.text_eq.symm.trans d'.text_eq
      rw [hbefore, hheader] at htext
      exact (List.cons.inj (List.append_cancel_left (List.append_cancel_left htext))).2
    exact OpenDirective.ext hbefore hheader hblanks

/-- What is cut off a text is an open directive. -/
theorem exists_of_cutEmbed? {before : List Char} (h : cutEmbed? t = some before) :
    ∃ d : OpenDirective t, d.before = before := by
  obtain ⟨r, hr, hpeel⟩ := cutEmbed?_eq_some_iff.1 h
  obtain ⟨header, hheader, hrest⟩ := exists_isHeader_peelHeader r
  have hreverse : t.reverse = t.reverse.takeWhile isBlank
      ++ '\x7b' :: (header.reverse ++ (embedCommand.reverse ++ before.reverse)) := by
    rw [← hpeel, ← hrest, ← hr, List.takeWhile_append_dropWhile]
  refine ⟨{ before, header, blanks := (t.reverse.takeWhile isBlank).reverse, isHeader := hheader,
            isBlank_blanks := fun c hc => ?_, text_eq := ?_ }, rfl⟩
  · exact List.mem_takeWhile_imp (List.mem_reverse.1 hc)
  · simpa using congrArg List.reverse hreverse

end OpenDirective

/-- A directive is cut off the end of a text. -/
theorem cutEmbed?_isPrefix {t before : List Char} (h : cutEmbed? t = some before) :
    before <+: t := by
  obtain ⟨d, rfl⟩ := OpenDirective.exists_of_cutEmbed? h
  exact ⟨_, d.text_eq.symm⟩

/-- The directives that are cut are the open ones. -/
theorem cutEmbed?_eq_some_iff_openDirective {t before : List Char} :
    cutEmbed? t = some before ↔ ∃ d : OpenDirective t, d.before = before := by
  refine ⟨OpenDirective.exists_of_cutEmbed?, ?_⟩
  rintro ⟨d, rfl⟩
  exact d.cutEmbed?_eq

/-- Nothing is cut off exactly those texts that end with no open directive. -/
theorem cutEmbed?_eq_none_iff_openDirective {t : List Char} :
    cutEmbed? t = none ↔ IsEmpty (OpenDirective t) := by
  rw [Option.eq_none_iff_forall_ne_some]
  refine ⟨fun h => ⟨fun d => h d.before d.cutEmbed?_eq⟩, fun h before hcut => ?_⟩
  obtain ⟨d, -⟩ := OpenDirective.exists_of_cutEmbed? hcut
  exact h.false d

/-! ### Unfilled paths -/

namespace Filling

variable {f : Filling}

/-- An unfilled path takes the open directive before it along. -/
theorem erasePath_of_openDirective (d : OpenDirective f.text) :
    f.erasePath = { f with text := d.before, closing := true } := by
  simp only [erasePath, d.cutEmbed?_eq]

/-- An unfilled path without an open directive drops the line. -/
theorem erasePath_of_isEmpty (h : IsEmpty (OpenDirective f.text)) :
    f.erasePath = { f with dropped := true, closing := false } := by
  simp only [erasePath, cutEmbed?_eq_none_iff_openDirective.2 h]

/-- **Exactly the open directives are cut.** A text ends with at most one open directive, and what
is cut off it is that directive. So an unfilled path finds a directive exactly where the text of the
line ends with an open one. It cuts the text back to what stands before that directive, the blanks
there included; where there is none, the text stays as it is. -/
theorem erasePath_openDirective (f : Filling) :
    Subsingleton (OpenDirective f.text) ∧
    (∀ before, cutEmbed? f.text = some before ↔ ∃ d : OpenDirective f.text, d.before = before) ∧
    (f.erasePath.closing = true ↔ Nonempty (OpenDirective f.text)) ∧
    (∀ d : OpenDirective f.text, f.erasePath = { f with text := d.before, closing := true }) ∧
    (IsEmpty (OpenDirective f.text) →
      f.erasePath = { f with dropped := true, closing := false }) := by
  refine ⟨inferInstance, fun _ => cutEmbed?_eq_some_iff_openDirective, ?_,
    erasePath_of_openDirective, erasePath_of_isEmpty⟩
  constructor
  · intro hclosing
    by_contra hnone
    rw [erasePath_of_isEmpty ⟨fun d => hnone ⟨d⟩⟩] at hclosing
    cases hclosing
  · rintro ⟨d⟩
    rw [erasePath_of_openDirective d]

/-- A command that is not followed by a header stays, with the blank behind it; and with no other
command, nothing is cut. -/
theorem erasePath_openDirective_of_lookalikes :
    let f : Filling :=
      { text := "\\includegraphics[ \\includegraphics*<2->[a>b] <c]> \x7b ".toList
        heldPlot := true, dropped := false, closing := false }
    let g : Filling := { f with text := "see \\includegraphics and \x7b".toList }
    f.erasePath = { f with text := "\\includegraphics[ ".toList, closing := true } ∧
      (∀ d : OpenDirective f.text, d.before = "\\includegraphics[ ".toList) ∧
      IsEmpty (OpenDirective g.text) ∧
      g.erasePath = { g with dropped := true, closing := false } := by
  intro f g
  let d : OpenDirective f.text :=
    { before := "\\includegraphics[ ".toList
      header := "*<2->[a>b] <c]> ".toList
      blanks := [' ']
      isHeader :=
        have hgroups := ((IsHeader.nil.star.overlay (y := "2-".toList) (by decide)).options
          (x := "a>b".toList) (by decide)).blank (c := ' ') (by decide)
        (hgroups.overlay (y := "c]".toList) (by decide)).blank (c := ' ') (by decide)
      isBlank_blanks := by decide
      text_eq := by decide }
  obtain ⟨hunique, -, -, hcut, -⟩ := erasePath_openDirective f
  obtain ⟨-, -, hfound, -, hkept⟩ := erasePath_openDirective g
  have hclosing : g.erasePath.closing ≠ true := by decide +kernel
  have hnone : IsEmpty (OpenDirective g.text) := ⟨fun d' => hclosing (hfound.2 ⟨d'⟩)⟩
  exact ⟨hcut d, fun d' => congrArg OpenDirective.before (hunique.elim d' d), hnone, hkept hnone⟩

end Filling

end PlotDeck.Template

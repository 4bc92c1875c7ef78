import PlotDeck.Template.Embed

/-!
# Peeling the header of an embed directive

A header is peeled from its end: with the blanks behind them, options (`peelHeader_of_bracket`) and
overlays (`peelHeader_of_angle`) go as a whole and stars (`peelHeader_of_star`) one by one, and any
character that neither ends a group nor is a star or a blank stops the peeling (`peelHeader_cons`).
Where it stops at the end of a command, a directive is cut off (`cutEmbed?_of_peelHeader`).
-/

namespace PlotDeck.Template

open Text (isBlank trimEnd)

theorem dropWhile_bne_append {c : Char} {x : List Char} (hx : c ∉ x) (r : List Char) :
    (x ++ c :: r).dropWhile (· != c) = c :: r := by
  rw [List.dropWhile_append_of_pos]
  · simp
  · intro d hd
    rw [bne_iff_ne]
    rintro rfl
    exact hx hd

section Groups

variable {t inner before : List Char}

/-- A group of options is peeled off as a whole, with the blanks behind it. -/
theorem peelHeader_of_bracket (ht : t.dropWhile isBlank = ']' :: inner)
    (hinner : inner.dropWhile (· != '[') = '[' :: before) : peelHeader t = peelHeader before := by
  rw [peelHeader]
  split <;> simp_all
  split <;> simp_all

/-- An overlay is peeled off as a whole, with the blanks behind it. -/
theorem peelHeader_of_angle (ht : t.dropWhile isBlank = '>' :: inner)
    (hinner : inner.dropWhile (· != '<') = '<' :: before) : peelHeader t = peelHeader before := by
  rw [peelHeader]
  split <;> simp_all
  split <;> simp_all

/-- A star is peeled off with the blanks behind it. -/
theorem peelHeader_of_star (ht : t.dropWhile isBlank = '*' :: before) :
    peelHeader t = peelHeader before := by
  rw [peelHeader]
  split <;> simp_all

end Groups

/-- The peeling stops at a character that belongs to no header. -/
theorem peelHeader_cons {c : Char} (hblank : isBlank c = false)
    (hc : c ≠ ']' ∧ c ≠ '>' ∧ c ≠ '*') (t : List Char) : peelHeader (c :: t) = c :: t := by
  have hstop : (c :: t).dropWhile isBlank = c :: t :=
    List.dropWhile_cons_of_neg (by simp [hblank])
  rw [peelHeader]
  split <;> simp_all

/-! ### Directives that are cut off -/

/-- A directive is cut off where the peeling of its header ends with its command. -/
theorem cutEmbed?_of_peelHeader {t r before : List Char} (hrev : (trimEnd t).reverse = '\x7b' :: r)
    (hpeel : peelHeader r = embedCommand.reverse ++ before.reverse) :
    cutEmbed? t = some before := by
  have hlength : embedCommand.length = embedCommand.reverse.length := List.length_reverse.symm
  rw [cutEmbed?, hrev]
  simp only [hpeel]
  rw [if_pos (List.isPrefixOf_iff_prefix.2 (List.prefix_append _ _)), hlength, List.drop_left,
    List.reverse_reverse]

/-- The peeling stops at the end of a command. -/
theorem peelHeader_command (before : List Char) :
    peelHeader (embedCommand.reverse ++ before) = embedCommand.reverse ++ before :=
  peelHeader_cons (by decide) (by decide) _

end PlotDeck.Template

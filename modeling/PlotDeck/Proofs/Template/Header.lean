import Mathlib.Data.List.TakeWhile
import PlotDeck.Proofs.Template.Decisive

/-!
# Headers of embed directives

A **header** is what can stand between the command of an embed directive and the brace of its path:
blanks, stars, groups of options and overlays, in any order and number. Peeling goes through a whole
header (`IsHeader.peelHeader_append`), whatever stands before it, so a directive with any header is
cut off as a whole (`IsHeader.cutEmbed?_append`), say without one (`cutEmbed?_command`) or with one
group of options (`cutEmbed?_options`). Nor is anything else peeled: what has gone from a text is a
header (`exists_isHeader_peelHeader`).
-/

namespace PlotDeck.Template

open Text (isBlank)

/-- A text is a **header** when it is made up of blanks, stars, options between square brackets and
overlays between angle brackets. A group may hold anything but the bracket that opens it. -/
inductive IsHeader : List Char → Prop
  /-- No header. -/
  | nil : IsHeader []
  /-- A blank behind a header. -/
  | blank {h : List Char} {c : Char} (hh : IsHeader h) (hc : isBlank c = true) : IsHeader (h ++ [c])
  /-- A star behind a header. -/
  | star {h : List Char} (hh : IsHeader h) : IsHeader (h ++ ['*'])
  /-- A group of options behind a header. -/
  | options {h x : List Char} (hh : IsHeader h) (hx : '[' ∉ x) : IsHeader (h ++ '[' :: (x ++ [']']))
  /-- An overlay behind a header. -/
  | overlay {h y : List Char} (hh : IsHeader h) (hy : '<' ∉ y) : IsHeader (h ++ '<' :: (y ++ ['>']))

/-- A blank is peeled off. -/
theorem peelHeader_blank {c : Char} (hc : isBlank c = true) (before : List Char) :
    peelHeader (c :: before) = peelHeader before := by
  have hdrop : [c].dropWhile isBlank = [] := by simp [hc]
  rw [← List.singleton_append, ← peelHeader_dropWhile_append, hdrop, List.nil_append]

/-- A star is peeled off. -/
theorem peelHeader_star (before : List Char) : peelHeader ('*' :: before) = peelHeader before :=
  peelHeader_of_star (List.dropWhile_cons_of_neg (by decide))

/-- Options without an opening bracket among them are peeled off. -/
theorem peelHeader_options {x : List Char} (hx : '[' ∉ x) (before : List Char) :
    peelHeader (']' :: (x ++ '[' :: before)) = peelHeader before :=
  peelHeader_of_bracket (List.dropWhile_cons_of_neg (by decide)) (dropWhile_bne_append hx before)

/-- An overlay without an opening bracket in it is peeled off. -/
theorem peelHeader_overlay {y : List Char} (hy : '<' ∉ y) (before : List Char) :
    peelHeader ('>' :: (y ++ '<' :: before)) = peelHeader before :=
  peelHeader_of_angle (List.dropWhile_cons_of_neg (by decide)) (dropWhile_bne_append hy before)

/-- A directive that is written up to the brace of its path, read from its end. -/
theorem dropWhile_reverse_opening {w : List Char} (hw : ∀ c ∈ w, isBlank c = true)
    (h before : List Char) :
    (before ++ (embedCommand ++ h ++ '\x7b' :: w)).reverse.dropWhile isBlank
      = '\x7b' :: (h.reverse ++ (embedCommand.reverse ++ before.reverse)) := by
  have hreverse : (before ++ (embedCommand ++ h ++ '\x7b' :: w)).reverse
      = w.reverse ++ '\x7b' :: (h.reverse ++ (embedCommand.reverse ++ before.reverse)) := by simp
  rw [hreverse, List.dropWhile_append_of_pos fun c hc => hw c (List.mem_reverse.1 hc)]
  exact List.dropWhile_cons_of_neg (by decide)

namespace IsHeader

variable {h : List Char}

/-- A header is peeled off as a whole. -/
theorem peelHeader_append (hh : IsHeader h) (before : List Char) :
    peelHeader (h.reverse ++ before) = peelHeader before := by
  -- the last group of the header is the first that is peeled
  induction hh with
  | nil => rfl
  | blank _ hc ih =>
    rw [List.reverse_append, List.append_assoc]
    exact (peelHeader_blank hc _).trans ih
  | star _ ih =>
    rw [List.reverse_append, List.append_assoc]
    exact (peelHeader_star _).trans ih
  | @options h x _ hx ih =>
    have hreverse : (h ++ '[' :: (x ++ [']'])).reverse ++ before
        = ']' :: (x.reverse ++ '[' :: (h.reverse ++ before)) := by simp
    rw [hreverse, peelHeader_options (by simpa using hx), ih]
  | @overlay h y _ hy ih =>
    have hreverse : (h ++ '<' :: (y ++ ['>'])).reverse ++ before
        = '>' :: (y.reverse ++ '<' :: (h.reverse ++ before)) := by simp
    rw [hreverse, peelHeader_overlay (by simpa using hy), ih]

/-- Blanks behind a header belong to it. -/
theorem append_blanks {w : List Char} (hh : IsHeader h) (hw : ∀ c ∈ w, isBlank c = true) :
    IsHeader (h ++ w) := by
  induction w using List.reverseRecOn with
  | nil => rwa [List.append_nil]
  | append_singleton w c ih =>
    obtain ⟨hw, hc⟩ := List.forall_mem_append.1 hw
    rw [← List.append_assoc]
    exact (ih hw).blank (hc c List.mem_cons_self)

/-- A directive that is written up to the brace of its path is cut off as a whole. -/
theorem cutEmbed?_append {w : List Char} (hh : IsHeader h) (hw : ∀ c ∈ w, isBlank c = true)
    (before : List Char) :
    cutEmbed? (before ++ (embedCommand ++ h ++ '\x7b' :: w)) = some before := by
  refine cutEmbed?_eq_some_iff.2 ⟨_, dropWhile_reverse_opening hw h before, ?_⟩
  rw [hh.peelHeader_append, peelHeader_command]

end IsHeader

theorem cutEmbed?_command (before : List Char) :
    cutEmbed? (before ++ embedCommand ++ ['\x7b']) = some before := by
  simpa using IsHeader.nil.cutEmbed?_append (w := []) (by simp) before

theorem cutEmbed?_options {x : List Char} (hx : '[' ∉ x) (before : List Char) :
    cutEmbed? (before ++ embedCommand ++ '[' :: x ++ [']', '\x7b']) = some before := by
  simpa using (IsHeader.nil.options hx).cutEmbed?_append (w := []) (by simp) before

/-! ### What has been peeled off -/

/-- The blanks in front of what is peeled off a reversed text are peeled off with it. -/
theorem exists_isHeader_of_dropWhile {t h left : List Char} (hh : IsHeader h)
    (ht : t.dropWhile isBlank = h.reverse ++ left) :
    ∃ h', IsHeader h' ∧ t = h'.reverse ++ left := by
  refine ⟨h ++ (t.takeWhile isBlank).reverse, hh.append_blanks fun c hc => ?_, ?_⟩
  · exact List.mem_takeWhile_imp (List.mem_reverse.1 hc)
  · rw [List.reverse_append, List.reverse_reverse, List.append_assoc, ← ht,
      List.takeWhile_append_dropWhile]

/-- A character that is looked for is found at its first place. -/
theorem exists_eq_append_of_dropWhile_bne {c : Char} {t before : List Char}
    (h : t.dropWhile (· != c) = c :: before) : ∃ x, c ∉ x ∧ t = x ++ c :: before := by
  refine ⟨t.takeWhile (· != c), fun hc => ?_, ?_⟩
  · simpa using List.mem_takeWhile_imp hc
  · rw [← h, List.takeWhile_append_dropWhile]

/-- Only a header is peeled off a text. -/
theorem exists_isHeader_peelHeader (t : List Char) :
    ∃ h, IsHeader h ∧ t = h.reverse ++ peelHeader t := by
  -- what is peeled later stands further to the front: the header grows at its end
  fun_induction peelHeader t with
  | case1 t inner ht before hinner ih =>
    obtain ⟨h, hh, hbefore⟩ := ih
    obtain ⟨x, hx, rfl⟩ := exists_eq_append_of_dropWhile_bne hinner
    have hgroup := hh.options (x := x.reverse) (by simpa using hx)
    refine exists_isHeader_of_dropWhile hgroup (ht.trans ?_)
    simpa using hbefore
  | case2 t inner ht => exact exists_isHeader_of_dropWhile .nil ht
  | case3 t inner ht before hinner ih =>
    obtain ⟨h, hh, hbefore⟩ := ih
    obtain ⟨y, hy, rfl⟩ := exists_eq_append_of_dropWhile_bne hinner
    have hgroup := hh.overlay (y := y.reverse) (by simpa using hy)
    refine exists_isHeader_of_dropWhile hgroup (ht.trans ?_)
    simpa using hbefore
  | case4 t inner ht => exact exists_isHeader_of_dropWhile .nil ht
  | case5 t before ht ih =>
    obtain ⟨h, hh, hbefore⟩ := ih
    refine exists_isHeader_of_dropWhile hh.star (ht.trans ?_)
    simpa using hbefore
  | case6 t => exact exists_isHeader_of_dropWhile .nil rfl

end PlotDeck.Template

import PlotDeck.Proofs.Template.Embed
import PlotDeck.Proofs.Text.Occurrence

/-!
# Texts that decide what is cut

A text is **decisive** when it tells by itself whether it ends with an embed directive, and with
which: what stands in front of it plays no part. A text that ends with a whole directive is decisive
(`isDecisive_of_cut`). A text that is not decisive ends with no directive, but some text in front of
it makes up one; and there is a text in front of it, the **barrier**, that makes up none whatever
comes before (`cutEmbed?_barrier`). Which texts are decisive is told by what the peeling of a header
leaves of them (`isDecisive_iff`).
-/

namespace PlotDeck.Template

open Text (isBlank trimEnd prefix_append_cons_iff)

variable {t u x y inner before : List Char}

/-! ### Peeling a longer text -/

section DropWhile

variable {p : Char → Bool} {c : Char}

theorem dropWhile_append_of_eq_cons (h : t.dropWhile p = c :: inner) (x : List Char) :
    (t ++ x).dropWhile p = c :: (inner ++ x) := by
  rw [List.dropWhile_append, h]
  rfl

theorem dropWhile_dropWhile_append (t x : List Char) :
    (t.dropWhile p ++ x).dropWhile p = (t ++ x).dropWhile p := by
  induction t with
  | nil => rfl
  | cons c t ih => by_cases hc : p c = true <;> simp [hc, ih]

/-- Nothing is left if a character is looked for that is not there. -/
theorem not_mem_of_dropWhile_bne (h : ∀ before, t.dropWhile (· != c) = c :: before → False) :
    c ∉ t := by
  intro hc
  obtain ⟨a, b, rfl, ha⟩ := List.eq_append_cons_of_mem hc
  exact h b (dropWhile_bne_append ha b)

end DropWhile

/-- Blanks before the next group are passed over. -/
theorem peelHeader_dropWhile_append (t x : List Char) :
    peelHeader (t.dropWhile isBlank ++ x) = peelHeader (t ++ x) := by
  rw [peelHeader, peelHeader.eq_1 (t ++ x), dropWhile_dropWhile_append]

/-- The peeling of a longer text goes on where that of its end stopped. -/
theorem peelHeader_append (t x : List Char) :
    peelHeader (t ++ x) = peelHeader (peelHeader t ++ x) := by
  fun_induction peelHeader t with
  | case1 t inner ht before hinner ih =>
    rw [← ih]
    exact peelHeader_of_bracket (dropWhile_append_of_eq_cons ht x)
      (dropWhile_append_of_eq_cons hinner x)
  | case2 t inner ht => rw [← peelHeader_dropWhile_append, ht]
  | case3 t inner ht before hinner ih =>
    rw [← ih]
    exact peelHeader_of_angle (dropWhile_append_of_eq_cons ht x)
      (dropWhile_append_of_eq_cons hinner x)
  | case4 t inner ht => rw [← peelHeader_dropWhile_append, ht]
  | case5 t before ht ih =>
    rw [← ih]
    exact peelHeader_of_star (dropWhile_append_of_eq_cons ht x)
  | case6 t => rw [peelHeader_dropWhile_append]

/-- What can be left of a text when the peeling of a header stops. -/
inductive Peeled : List Char → Prop
  /-- Nothing. -/
  | nil : Peeled []
  /-- A group of options that is not opened. -/
  | bracket {inner : List Char} (h : '[' ∉ inner) : Peeled (']' :: inner)
  /-- An overlay that is not opened. -/
  | angle {inner : List Char} (h : '<' ∉ inner) : Peeled ('>' :: inner)
  /-- A text whose last character belongs to no header. -/
  | stop {c : Char} {r : List Char} (hblank : isBlank c = false)
    (hc : c ≠ ']' ∧ c ≠ '>' ∧ c ≠ '*') : Peeled (c :: r)

theorem peeled_peelHeader (t : List Char) : Peeled (peelHeader t) := by
  fun_induction peelHeader t with
  | case1 t inner ht before hinner ih => exact ih
  | case2 t inner ht hinner => exact .bracket (not_mem_of_dropWhile_bne hinner)
  | case3 t inner ht before hinner ih => exact ih
  | case4 t inner ht hinner => exact .angle (not_mem_of_dropWhile_bne hinner)
  | case5 t before ht ih => exact ih
  | case6 t hbracket hangle hstar =>
    cases hrest : t.dropWhile isBlank with
    | nil => exact .nil
    | cons c r =>
      have hblank : isBlank c = false := by
        have hhead := List.head?_dropWhile_not isBlank t
        simpa [hrest] using hhead
      refine .stop hblank ⟨?_, ?_, ?_⟩
      · rintro rfl
        exact hbracket r hrest
      · rintro rfl
        exact hangle r hrest
      · rintro rfl
        exact hstar r hrest

/-! ### Directives at the end of a longer text -/

theorem cutEmbed?_eq_some_iff {before : List Char} :
    cutEmbed? t = some before ↔ ∃ r, t.reverse.dropWhile isBlank = '\x7b' :: r ∧
      peelHeader r = embedCommand.reverse ++ before.reverse := by
  have hrev : (trimEnd t).reverse = t.reverse.dropWhile isBlank := by
    rw [trimEnd, List.reverse_reverse]
  rw [← hrev]
  constructor
  · intro h
    rw [cutEmbed?] at h
    split at h
    · next r hr =>
      obtain ⟨hcommand, rfl⟩ : embedCommand.reverse.isPrefixOf (peelHeader r) = true ∧
          ((peelHeader r).drop embedCommand.length).reverse = before := by simpa using h
      obtain ⟨rest, hrest⟩ := List.isPrefixOf_iff_prefix.1 hcommand
      refine ⟨r, hr, ?_⟩
      rw [List.reverse_reverse, ← hrest, ← List.length_reverse, List.drop_left]
    · cases h
  · rintro ⟨r, hr, hpeel⟩
    exact cutEmbed?_of_peelHeader hr hpeel

/-- A text that ends with no directive: either it does not end with the brace of a path, or no
command comes before the header. -/
theorem cutEmbed?_eq_none_iff :
    cutEmbed? t = none ↔ ∀ r, t.reverse.dropWhile isBlank = '\x7b' :: r →
      ¬embedCommand.reverse <+: peelHeader r := by
  rw [Option.eq_none_iff_forall_ne_some]
  constructor
  · rintro h r hr ⟨rest, hrest⟩
    exact h rest.reverse (cutEmbed?_eq_some_iff.2 ⟨r, hr, by rw [List.reverse_reverse, hrest]⟩)
  · intro h before hcut
    obtain ⟨r, hr, hpeel⟩ := cutEmbed?_eq_some_iff.1 hcut
    exact h r hr ⟨_, hpeel.symm⟩

/-- The last character of a text that is not blank is that of every longer text. -/
theorem dropWhile_reverse_append {c : Char} {r : List Char}
    (h : u.reverse.dropWhile isBlank = c :: r) (x : List Char) :
    (x ++ u).reverse.dropWhile isBlank = c :: (r ++ x.reverse) := by
  rw [List.reverse_append]
  exact dropWhile_append_of_eq_cons h _

/-- A directive at the end of a text is cut off every longer text. -/
theorem cutEmbed?_append (h : cutEmbed? u = some before) (x : List Char) :
    cutEmbed? (x ++ u) = some (x ++ before) := by
  obtain ⟨r, hr, hpeel⟩ := cutEmbed?_eq_some_iff.1 h
  refine cutEmbed?_eq_some_iff.2 ⟨r ++ x.reverse, dropWhile_reverse_append hr x, ?_⟩
  rw [peelHeader_append, hpeel, List.append_assoc, peelHeader_command, List.reverse_append]

/-- A text past which no header is peeled. -/
def barrier : List Char := ".[<".toList

theorem not_command_of_barrier (h : ¬embedCommand.reverse <+: peelHeader t) (x : List Char) :
    ¬embedCommand.reverse <+: peelHeader (t ++ (barrier.reverse ++ x)) := by
  have hstop : ∀ {c : Char} {r : List Char}, c ≠ 's' → ¬embedCommand.reverse <+: c :: r := by
    intro c r hc hprefix
    exact hc (List.cons_prefix_cons.1 hprefix).1.symm
  have hbarrier : barrier.reverse ++ x = '<' :: '[' :: '.' :: x := rfl
  rw [peelHeader_append, hbarrier]
  have hleft := peeled_peelHeader t
  generalize peelHeader t = left at h hleft
  -- whatever is left of the end of the text, the peeling stops at a character of the barrier
  cases hleft with
  | nil =>
    rw [List.nil_append, peelHeader_cons (by decide) (by decide)]
    exact hstop (by decide)
  | @bracket inner hinner =>
    have hopen : (inner ++ '<' :: '[' :: '.' :: x).dropWhile (· != '[') = '[' :: '.' :: x := by
      rw [← List.singleton_append, ← List.append_assoc]
      exact dropWhile_bne_append (by simp [hinner]) _
    rw [List.cons_append, peelHeader_of_bracket (List.dropWhile_cons_of_neg (by decide)) hopen,
      peelHeader_cons (by decide) (by decide)]
    exact hstop (by decide)
  | @angle inner hinner =>
    rw [List.cons_append, peelHeader_of_angle (List.dropWhile_cons_of_neg (by decide))
      (dropWhile_bne_append hinner _), peelHeader_cons (by decide) (by decide)]
    exact hstop (by decide)
  | stop hblank hc =>
    rw [List.cons_append, peelHeader_cons hblank hc, ← List.cons_append,
      prefix_append_cons_iff (by decide)]
    exact h

/-- Behind a barrier, only what stands behind it counts. -/
theorem cutEmbed?_barrier (h : cutEmbed? u = none) (x : List Char) :
    cutEmbed? (x ++ barrier ++ u) = none := by
  rw [cutEmbed?_eq_none_iff] at h ⊢
  intro r hr
  cases hu : u.reverse.dropWhile isBlank with
  | nil =>
    -- `u` is blank, so the text ends with the barrier and not with a brace
    rw [List.reverse_append, List.reverse_append, List.dropWhile_append, hu] at hr
    cases hr
  | cons c r' =>
    rw [dropWhile_reverse_append hu, List.reverse_append] at hr
    obtain ⟨rfl, rfl⟩ := List.cons.inj hr
    exact not_command_of_barrier (h r' hu) x.reverse

/-! ### Decisive texts -/

/-- A text is **decisive** when a directive at the end of a longer text is one at its own end. -/
def IsDecisive (u : List Char) : Prop := ∀ x, cutEmbed? (x ++ u) = (cutEmbed? u).map (x ++ ·)

theorem isDecisive_of_cut (h : cutEmbed? u = some before) : IsDecisive u := by
  intro x
  rw [h, cutEmbed?_append h]
  rfl

/-- A text that is not decisive ends with no directive. -/
theorem cutEmbed?_of_not_isDecisive (h : ¬IsDecisive u) : cutEmbed? u = none := by
  by_contra hsome
  obtain ⟨before, hcut⟩ := Option.ne_none_iff_exists'.1 hsome
  exact h (isDecisive_of_cut hcut)

/-! ### Telling decisive texts -/

/-- Whether a header may go on in front of what its peeling left: a group is not opened yet, or the
command is there at most in part. -/
def isUnfinished : List Char → Bool
  | ']' :: _ | '>' :: _ => true
  | left => left.isPrefixOf embedCommand.reverse && left != embedCommand.reverse

theorem isUnfinished_cons_iff {c : Char} {r : List Char} (hc : c ≠ ']' ∧ c ≠ '>') :
    isUnfinished (c :: r) = true ↔
      c :: r <+: embedCommand.reverse ∧ c :: r ≠ embedCommand.reverse := by
  have hunfold : isUnfinished (c :: r)
      = ((c :: r).isPrefixOf embedCommand.reverse && c :: r != embedCommand.reverse) := by
    rw [isUnfinished] <;> simp_all
  rw [hunfold, Bool.and_eq_true, List.isPrefixOf_iff_prefix, bne_iff_ne]

/-- An unfinished header can be finished. -/
theorem exists_command_of_isUnfinished {left : List Char} (hleft : Peeled left)
    (h : isUnfinished left = true) :
    ¬embedCommand.reverse <+: left ∧ ∃ x, embedCommand.reverse <+: peelHeader (left ++ x) := by
  have hcommand : ∀ x, embedCommand.reverse <+: peelHeader (embedCommand.reverse ++ x) := fun x =>
    ⟨x, (peelHeader_command x).symm⟩
  cases hleft with
  | nil => exact ⟨by decide, embedCommand.reverse, hcommand []⟩
  | @bracket inner hinner =>
    refine ⟨fun h => absurd (List.cons_prefix_cons.1 h).1 (by decide),
      '[' :: embedCommand.reverse, ?_⟩
    rw [List.cons_append, peelHeader_of_bracket (List.dropWhile_cons_of_neg (by decide))
      (dropWhile_bne_append hinner _)]
    exact hcommand []
  | @angle inner hinner =>
    refine ⟨fun h => absurd (List.cons_prefix_cons.1 h).1 (by decide),
      '<' :: embedCommand.reverse, ?_⟩
    rw [List.cons_append, peelHeader_of_angle (List.dropWhile_cons_of_neg (by decide))
      (dropWhile_bne_append hinner _)]
    exact hcommand []
  | @stop c r hblank hc =>
    obtain ⟨⟨rest, hrest⟩, hne⟩ := (isUnfinished_cons_iff ⟨hc.1, hc.2.1⟩).1 h
    refine ⟨fun h => hne (List.IsPrefix.eq_of_length_le ⟨rest, hrest⟩ h.length_le), rest, ?_⟩
    rw [hrest, ← List.append_nil embedCommand.reverse]
    exact hcommand []

/-- A finished header without a command has none in a longer text either. -/
theorem not_command_of_finished {left : List Char} (hleft : Peeled left)
    (hfinished : isUnfinished left = false) (h : ¬embedCommand.reverse <+: left) (x : List Char) :
    ¬embedCommand.reverse <+: peelHeader (left ++ x) := by
  cases hleft with
  | nil => exact absurd hfinished (by decide)
  | bracket => exact absurd hfinished (by simp [isUnfinished])
  | angle => exact absurd hfinished (by simp [isUnfinished])
  | @stop c r hblank hc =>
    rw [List.cons_append, peelHeader_cons hblank hc, ← List.cons_append]
    intro hlong
    obtain hshort | hshort := List.prefix_or_prefix_of_prefix hlong (List.prefix_append (c :: r) x)
    · exact h hshort
    · have hne : c :: r ≠ embedCommand.reverse := fun heq => h (heq ▸ List.prefix_refl _)
      have hunfinished := (isUnfinished_cons_iff ⟨hc.1, hc.2.1⟩).2 ⟨hshort, hne⟩
      simp [hfinished] at hunfinished

/-- A text is decisive exactly when it is not blank and does not end with an unfinished header. -/
theorem isDecisive_iff :
    IsDecisive u ↔ ∃ c r, u.reverse.dropWhile isBlank = c :: r ∧
      (c = '\x7b' → isUnfinished (peelHeader r) = false) := by
  have hundecided : cutEmbed? u = none → ∀ v, (cutEmbed? (v ++ u)).isSome → ¬IsDecisive u := by
    intro hnone v hv hu
    rw [hu v, hnone] at hv
    cases hv
  cases hrest : u.reverse.dropWhile isBlank with
  | nil =>
    refine iff_of_false (hundecided ?_ (embedCommand ++ ['\x7b']) ?_) (by simp)
    · exact cutEmbed?_eq_none_iff.2 fun r hr => by simp [hrest] at hr
    · rw [Option.isSome_iff_exists]
      refine ⟨[], cutEmbed?_eq_some_iff.2 ⟨embedCommand.reverse, ?_, ?_⟩⟩
      · rw [List.reverse_append, List.dropWhile_append, hrest]
        rfl
      · rw [← peelHeader_command]
        rfl
  | cons c r =>
    constructor
    · intro hu
      refine ⟨c, r, rfl, ?_⟩
      rintro rfl
      by_contra hopen
      obtain ⟨hno, x, rest, hx⟩ :=
        exists_command_of_isUnfinished (peeled_peelHeader r) (by simpa using hopen)
      refine hundecided (cutEmbed?_eq_none_iff.2 fun r' hr' => ?_) x.reverse ?_ hu
      · obtain ⟨-, rfl⟩ := List.cons.inj (hrest.symm.trans hr')
        exact hno
      · rw [Option.isSome_iff_exists]
        refine ⟨rest.reverse, cutEmbed?_eq_some_iff.2 ⟨_, dropWhile_reverse_append hrest _, ?_⟩⟩
        rw [List.reverse_reverse, List.reverse_reverse, peelHeader_append, hx]
    · rintro ⟨c', r', heq, hfinished⟩
      obtain ⟨rfl, rfl⟩ := List.cons.inj heq
      cases hcut : cutEmbed? u with
      | some before => exact isDecisive_of_cut hcut
      | none =>
        intro x
        rw [hcut, Option.map_none, cutEmbed?_eq_none_iff]
        intro r' hr'
        rw [dropWhile_reverse_append hrest] at hr'
        obtain ⟨rfl, rfl⟩ := List.cons.inj hr'
        rw [peelHeader_append]
        exact not_command_of_finished (peeled_peelHeader r) (hfinished rfl)
          (cutEmbed?_eq_none_iff.1 hcut r hrest) _

/-- Whether a text is decisive is found by peeling the header that it ends with. -/
instance decidableIsDecisive : DecidablePred IsDecisive := fun u =>
  match h : u.reverse.dropWhile isBlank with
  | [] => isFalse fun hu => by
      obtain ⟨c, r, hrest, -⟩ := isDecisive_iff.1 hu
      simp [h] at hrest
  | c :: r => decidable_of_iff (c = '\x7b' → isUnfinished (peelHeader r) = false) <| by
      rw [isDecisive_iff, h]
      constructor
      · exact fun hc => ⟨c, r, rfl, hc⟩
      · rintro ⟨c', r', heq, hc⟩
        obtain ⟨rfl, rfl⟩ := List.cons.inj heq
        exact hc

example : IsDecisive "\\includegraphics<2> [width=2cm] \x7b".toList := by decide +kernel

end PlotDeck.Template

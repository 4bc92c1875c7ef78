import PlotDeck.Text.Blank
import PlotDeck.Text.Lines

/-!
# Trimmed lines

A line is judged by its trimmed text. Blanks at its end, the line feed among them, do not count
(`trim_append_blanks`); characters that are not blank stay where they are at the start of a text
(`trim_cons`, `trimEnd_cons`).
-/

namespace PlotDeck.Text

/-! ### Deciding what holds of all characters of a text -/

section Decide

variable (p : Char → Prop) [DecidablePred p]

/-- What holds of all characters of a text is decided by going through the text, rather than through
all characters that there are. -/
instance decidableForallMemText (t : List Char) : Decidable (∀ c ∈ t, p c) := List.decidableBAll p t

instance decidableForallMemOption (o : Option Char) : Decidable (∀ c ∈ o, p c) :=
  Option.decidableForallMem o

end Decide

/-! ### Trimming -/

theorem trimEnd_append_blanks {w : List Char} (hw : ∀ c ∈ w, isBlank c = true) (t : List Char) :
    trimEnd (t ++ w) = trimEnd t := by
  rw [trimEnd, List.reverse_append,
    List.dropWhile_append_of_pos fun c hc => hw c (List.mem_reverse.1 hc), trimEnd]

theorem trim_append_blanks {w : List Char} (hw : ∀ c ∈ w, isBlank c = true) (t : List Char) :
    trim (t ++ w) = trim t := by
  rw [trim, trimStart, List.dropWhile_append]
  split
  · -- `t` is blank throughout, and so is the whole text
    next h =>
      have hnil : trimStart t = [] := List.isEmpty_iff.1 h
      have hw' : trimStart w = [] := trimStart_eq_nil_iff.2 hw
      rw [trim, hnil, ← trimStart, hw']
  · rw [trimEnd_append_blanks hw, trim, trimStart]

/-- The line feed at the end of a line does not count. -/
theorem trim_append_newline (t : List Char) : trim (t ++ ['\n']) = trim t :=
  trim_append_blanks (by decide) t

theorem trimEnd_cons {c : Char} (hc : isBlank c = false) (t : List Char) :
    trimEnd (c :: t) = c :: trimEnd t := by
  rw [trimEnd, trimEnd, List.reverse_cons, List.dropWhile_append]
  split
  · next h =>
      have hnil : t.reverse.dropWhile isBlank = [] := List.isEmpty_iff.1 h
      rw [hnil, List.dropWhile_cons_of_neg (by simp [hc])]
      rfl
  · rw [List.reverse_append]
    rfl

theorem trim_cons {c : Char} (hc : isBlank c = false) (t : List Char) :
    trim (c :: t) = c :: trimEnd t := by
  rw [trim, trimStart, List.dropWhile_cons_of_neg (by simp [hc]), trimEnd_cons hc]

/-- Text whose first characters are not blank keeps them. -/
theorem trimEnd_append {p : List Char} (hp : ∀ c ∈ p, isBlank c = false) (t : List Char) :
    trimEnd (p ++ t) = p ++ trimEnd t := by
  induction p with
  | nil => rfl
  | cons c p ih =>
    rw [List.cons_append, trimEnd_cons (hp c List.mem_cons_self),
      ih fun d hd => hp d (List.mem_cons_of_mem c hd), List.cons_append]

theorem trim_append {p : List Char} (hne : p ≠ []) (hp : ∀ c ∈ p, isBlank c = false)
    (t : List Char) : trim (p ++ t) = p ++ trimEnd t := by
  cases p with
  | nil => exact absurd rfl hne
  | cons c p =>
    rw [List.cons_append, trim_cons (hp c List.mem_cons_self),
      trimEnd_append fun d hd => hp d (List.mem_cons_of_mem c hd), List.cons_append]

/-- Characters that are not blank survive trimming. -/
theorem mem_trim {c : Char} {t : List Char} (hc : isBlank c = false) (h : c ∈ t) : c ∈ trim t := by
  have hstart : c ∈ trimStart t := by
    rw [← List.takeWhile_append_dropWhile (p := isBlank) (l := t), List.mem_append] at h
    refine h.resolve_left fun hmem => ?_
    have hblank := List.all_eq_true.1 (List.all_takeWhile (p := isBlank) (l := t)) c hmem
    simp [hc] at hblank
  obtain ⟨w, hw, hblank⟩ := trimEnd_append_blank (trimStart t)
  rw [hw, List.mem_append] at hstart
  refine hstart.resolve_right fun hmem => ?_
  have hblank := hblank c hmem
  simp [hc] at hblank

/-! ### Lines of written text -/

/-- A line that has been written with its line feed is read as a line. -/
theorem lines_append_newline {t : List Char} (ht : '\n' ∉ t) (r : List Char) :
    lines (t ++ '\n' :: r) = (t ++ ['\n']) :: lines r := by
  induction t with
  | nil => rfl
  | cons c t ih =>
    obtain ⟨hc, ht⟩ : '\n' ≠ c ∧ '\n' ∉ t := by simpa using ht
    rw [List.cons_append, lines, if_neg (Ne.symm hc), ih ht]
    rfl

/-- A text without line feeds is one line, unless it is empty. -/
theorem lines_of_not_mem {t : List Char} (ht : '\n' ∉ t) :
    lines t = if t = [] then [] else [t] := by
  induction t with
  | nil => rfl
  | cons c t ih =>
    obtain ⟨hc, ht⟩ : '\n' ≠ c ∧ '\n' ∉ t := by simpa using ht
    rw [lines, if_neg (Ne.symm hc), ih ht]
    cases t <;> simp

/-- What holds of texts without line feeds, and of a line before every text of which it holds, holds
of all texts. -/
@[elab_as_elim]
theorem line_induction {motive : List Char → Prop} (last : ∀ u, '\n' ∉ u → motive u)
    (line : ∀ u r, '\n' ∉ u → motive r → motive (u ++ '\n' :: r)) (t : List Char) : motive t := by
  by_cases h : '\n' ∈ t
  · obtain ⟨u, r, ht, hu⟩ := List.eq_append_cons_of_mem h
    have hlength : r.length < t.length := by simp [ht]; omega
    exact ht ▸ line u r hu (line_induction last line r)
  · exact last t h
termination_by t.length

/-- A text is **one line** when it ends with its only line feed. -/
def IsLine (t : List Char) : Prop := ∃ u, t = u ++ ['\n'] ∧ '\n' ∉ u

/-- Lines that have been written one after the other are read back. -/
theorem lines_flatten {ts : List (List Char)} (hts : ∀ t ∈ ts, IsLine t) :
    lines ts.flatten = ts := by
  induction ts with
  | nil => rfl
  | cons t ts ih =>
    obtain ⟨u, rfl, hu⟩ := hts t List.mem_cons_self
    rw [List.flatten_cons, List.append_assoc, List.singleton_append, lines_append_newline hu,
      ih fun t ht => hts t (List.mem_cons_of_mem _ ht)]

/-- Texts **are lines** when each of them is one line, only that the last may lack its line feed. -/
inductive AreLines : List (List Char) → Prop
  /-- No lines. -/
  | nil : AreLines []
  /-- A last line without a line feed. -/
  | last {u : List Char} (hu : '\n' ∉ u) : AreLines [u]
  /-- A line and the lines after it. -/
  | cons {t : List Char} {ts : List (List Char)} (ht : IsLine t) (hts : AreLines ts) :
    AreLines (t :: ts)

namespace AreLines

variable {ts ts' : List (List Char)}

/-- The lines of a text are lines. -/
theorem lines (t : List Char) : AreLines (Text.lines t) := by
  induction t using line_induction with
  | last u hu =>
    rw [lines_of_not_mem hu]
    split
    · exact .nil
    · exact .last hu
  | line u r hu ih =>
    rw [lines_append_newline hu]
    exact .cons ⟨u, rfl, hu⟩ ih

/-- Lines that are left out leave lines. -/
theorem sublist (h : AreLines ts) (hsub : ts'.Sublist ts) : AreLines ts' := by
  induction hsub with
  | slnil => exact .nil
  | cons t _ ih =>
    cases h with
    | last => exact ih .nil
    | cons _ hts => exact ih hts
  | @cons_cons ts' ts t hsub ih =>
    cases h with
    | last hu =>
      obtain rfl := List.sublist_nil.1 hsub
      exact .last hu
    | cons ht hts => exact .cons ht (ih hts)

/-- Every line but the last is one line. -/
theorem isLine_of_append {t : List Char} (h : AreLines (ts ++ t :: ts')) : ∀ u ∈ ts, IsLine u := by
  induction ts with
  | nil => simp
  | cons u ts ih =>
    generalize hrest : ts ++ t :: ts' = rest at ih
    rw [List.cons_append, hrest] at h
    cases h with
    | last => simp at hrest
    | cons hu hts => exact List.forall_mem_cons.2 ⟨hu, ih hts⟩

/-- Lines that are written one after the other are read back, unless the last is empty. -/
theorem lines_flatten (h : AreLines ts) : Text.lines ts.flatten = ts.filter (· ≠ []) := by
  induction h with
  | nil => rfl
  | @last u hu =>
    rw [List.flatten_singleton, lines_of_not_mem hu]
    split <;> simp [*]
  | @cons t ts ht _ ih =>
    obtain ⟨u, rfl, hu⟩ := ht
    rw [List.flatten_cons, List.append_assoc, List.singleton_append, lines_append_newline hu, ih]
    simp

end AreLines

end PlotDeck.Text

import PlotDeck.Text.Position

/-!
# Boundaries and positions

A text can be cut at every boundary: what comes before it is told by the number of its bytes alone
(`append_inj_of_byteSize`). Rounding down ends at the last boundary that is not behind the offset,
whatever the offset is (`isBoundary_floorBoundary`, `le_floorBoundary`). The line and the column of
a boundary lead back to it in every text whose size is a machine word (`offsetOf_lineOf_columnOf`).
-/

namespace PlotDeck.Text

variable {s t u r s' r' : List Char} {n : Nat}

/-! ### Cutting at a boundary -/

theorem byteSize_eq_zero_iff : byteSize t = 0 ↔ t = [] := by
  cases t with
  | nil => simp
  | cons c t =>
    have hsize := c.utf8Size_pos
    simp only [byteSize_cons, reduceCtorEq, iff_false]
    omega

@[simp] theorem byteSize_reverse (t : List Char) : byteSize t.reverse = byteSize t := by
  induction t with
  | nil => rfl
  | cons c t ih =>
    rw [List.reverse_cons, byteSize_append, ih, byteSize_cons, byteSize_cons, byteSize_nil]
    omega

theorem takeBytes_append (s t : List Char) (n : Nat) :
    takeBytes (s ++ t) (byteSize s + n) = s ++ takeBytes t n := by
  induction s with
  | nil => simp
  | cons c s ih =>
    rw [byteSize_cons, List.cons_append, takeBytes, if_pos (by omega), List.cons_append]
    rw [Nat.add_assoc, Nat.add_sub_cancel_left, ih]

theorem takeBytes_zero (t : List Char) : takeBytes t 0 = [] := by
  cases t with
  | nil => rfl
  | cons c t => rw [takeBytes, if_neg (Nat.not_le.2 c.utf8Size_pos)]

theorem takeBytes_isPrefix (t : List Char) (n : Nat) : takeBytes t n <+: t :=
  ⟨dropBytes t n, takeBytes_append_dropBytes t n⟩

/-- The text before a boundary. -/
@[simp] theorem takeBytes_byteSize (s r : List Char) : takeBytes (s ++ r) (byteSize s) = s := by
  have htake := takeBytes_append s r 0
  rwa [Nat.add_zero, takeBytes_zero, List.append_nil] at htake

/-- The text behind a boundary. -/
@[simp] theorem dropBytes_byteSize (s r : List Char) : dropBytes (s ++ r) (byteSize s) = r := by
  have hsplit := takeBytes_append_dropBytes (s ++ r) (byteSize s)
  rw [takeBytes_byteSize] at hsplit
  exact List.append_cancel_left hsplit

/-- Two cuts of a text with as many bytes before them are the same cut. -/
theorem append_inj_of_byteSize (h : s ++ r = s' ++ r') (hsize : byteSize s = byteSize s') :
    s = s' ∧ r = r' := by
  have htake : s = s' := by rw [← takeBytes_byteSize s r, h, hsize, takeBytes_byteSize]
  subst htake
  exact ⟨rfl, List.append_cancel_left h⟩

/-! ### Boundaries -/

theorem isBoundary_append (s r : List Char) : IsBoundary (s ++ r) (byteSize s) := ⟨s, r, rfl, rfl⟩

/-- The end of a text is a boundary. -/
theorem isBoundary_byteSize (t : List Char) : IsBoundary t (byteSize t) :=
  ⟨t, [], (List.append_nil t).symm, rfl⟩

theorem IsBoundary.le_byteSize (h : IsBoundary t n) : n ≤ byteSize t := by
  obtain ⟨s, r, rfl, rfl⟩ := h
  rw [byteSize_append]
  exact Nat.le_add_right _ _

/-- Rounding down comes to a boundary, from inside the text or from beyond its end. -/
theorem isBoundary_floorBoundary (t : List Char) (n : Nat) : IsBoundary t (floorBoundary t n) :=
  ⟨takeBytes t n, dropBytes t n, (takeBytes_append_dropBytes t n).symm, rfl⟩

theorem byteSize_takeBytes_le (t : List Char) (n : Nat) : byteSize (takeBytes t n) ≤ n := by
  induction t generalizing n with
  | nil => exact Nat.zero_le n
  | cons c t ih =>
    rw [takeBytes]
    split
    · next hsize =>
      have hrest := ih (n - c.utf8Size)
      rw [byteSize_cons]
      omega
    · exact Nat.zero_le n

/-- Rounding down does not go beyond the offset. -/
theorem floorBoundary_le (t : List Char) (n : Nat) : floorBoundary t n ≤ n :=
  byteSize_takeBytes_le t n

/-- Rounding down passes no boundary. -/
theorem le_floorBoundary {m : Nat} (h : IsBoundary t m) (hle : m ≤ n) : m ≤ floorBoundary t n := by
  obtain ⟨s, r, rfl, rfl⟩ := h
  obtain ⟨k, rfl⟩ := Nat.exists_eq_add_of_le hle
  rw [floorBoundary, takeBytes_append, byteSize_append]
  exact Nat.le_add_right _ _

theorem floorBoundary_of_isBoundary (h : IsBoundary t n) : floorBoundary t n = n :=
  Nat.le_antisymm (floorBoundary_le t n) (le_floorBoundary h (Nat.le_refl n))

/-- The boundary behind another one is the end of the character that starts there, if there is
one. -/
theorem nextBoundary_append (s r : List Char) :
    nextBoundary (s ++ r) (byteSize s) = byteSize s + byteSize (r.take 1) := by
  rw [nextBoundary, dropBytes_byteSize]
  cases r with
  | nil => rfl
  | cons c r => simp

theorem charIndex_append (s r : List Char) : charIndex (s ++ r) (byteSize s) = s.length := by
  rw [charIndex, takeBytes_byteSize]

theorem charIndex_le_length (t : List Char) (n : Nat) : charIndex t n ≤ t.length :=
  (takeBytes_isPrefix t n).length_le

/-! ### Lines and columns -/

/-- Lines **are whole** if the last of them, if any, ends with a line feed. -/
def IsWholeLines (u : List Char) : Prop := ∀ c ∈ u.getLast?, c = '\n'

theorem IsWholeLines.tail {c : Char} (h : IsWholeLines (c :: u)) : IsWholeLines u := by
  intro d hd
  refine h d ?_
  rw [List.getLast?_cons, Option.mem_def.1 hd]
  rfl

theorem IsWholeLines.count_pos {c : Char} (h : IsWholeLines (c :: u)) :
    0 < (c :: u).count '\n' := by
  have hlast : (c :: u).getLast? = some (u.getLast?.getD c) := List.getLast?_cons
  have hfeed := h _ hlast
  rw [hfeed] at hlast
  exact List.count_pos_iff.2 (List.mem_of_getLast? hlast)

/-- A text is whole lines and the beginning of another one, which is told by looking back to the
last line feed. -/
theorem exists_wholeLines (s : List Char) :
    ∃ u v, s = u ++ v ∧ IsWholeLines u ∧ '\n' ∉ v ∧
      v = (s.reverse.takeWhile (· != '\n')).reverse := by
  refine ⟨(s.reverse.dropWhile (· != '\n')).reverse, _, ?_, fun c hc => ?_, fun hmem => ?_, rfl⟩
  · rw [← List.reverse_append, List.takeWhile_append_dropWhile, List.reverse_reverse]
  · rw [List.getLast?_reverse] at hc
    have hstop := List.head?_dropWhile_not (· != '\n') s.reverse
    rw [Option.mem_def.1 hc] at hstop
    simpa using hstop
  · have hline := List.all_eq_true.1 List.all_takeWhile '\n' (List.mem_reverse.1 hmem)
    simp at hline

/-- A line starts behind all lines before it. -/
theorem lineStart_append (hu : IsWholeLines u) (t : List Char) :
    lineStart (u ++ t) (u.count '\n' + 1) = byteSize u := by
  induction u with
  | nil => cases t <;> simp [lineStart]
  | cons c u ih =>
    have hfeeds := hu.count_pos
    rw [List.cons_append, lineStart, if_neg (by omega), byteSize_cons]
    -- a line feed takes one line away from those that are left to pass
    have hnext : (if c = '\n' then (c :: u).count '\n' + 1 - 1 else (c :: u).count '\n' + 1)
        = u.count '\n' + 1 := by
      split
      · next hc => rw [hc, List.count_cons_self, Nat.add_sub_cancel]
      · next hc => rw [List.count_cons_of_ne hc]
    rw [hnext, ih hu.tail]

/-- A boundary is as far behind the start of its line as its column says. -/
theorem lineStart_add_columnOf (h : IsBoundary t n) :
    lineStart t (lineOf t n) + columnOf t n = n := by
  obtain ⟨s, r, rfl, rfl⟩ := h
  obtain ⟨u, v, rfl, hu, hv, hlast⟩ := exists_wholeLines s
  have hline : lineOf (u ++ v ++ r) (byteSize (u ++ v)) = u.count '\n' + 1 := by
    rw [lineOf, takeBytes_byteSize, List.count_append, List.count_eq_zero.2 hv, Nat.add_zero]
  have hcolumn : columnOf (u ++ v ++ r) (byteSize (u ++ v)) = byteSize v := by
    rw [columnOf, takeBytes_byteSize, ← byteSize_reverse, ← hlast]
  have hstart : lineStart (u ++ v ++ r) (u.count '\n' + 1) = byteSize u := by
    rw [List.append_assoc, lineStart_append hu]
  rw [hline, hcolumn, hstart, byteSize_append]

/-! ### Sums of machine words -/

variable {line column : Nat}

/-- A place that is a machine word is rounded down as it is. -/
theorem offsetOf_of_lt (h : placeOf t line column < wordCount) :
    offsetOf t line column = floorBoundary t (placeOf t line column) := by
  rw [offsetOf, Nat.mod_eq_of_lt h]

/-- Then it does not matter whether sums are checked. -/
theorem offsetOf?_of_lt (h : placeOf t line column < wordCount) :
    offsetOf? t line column = some (offsetOf t line column) := by
  rw [offsetOf?, if_pos h, offsetOf_of_lt h]

/-- The line and the column of a boundary lead back to it. -/
theorem offsetOf_lineOf_columnOf (ht : byteSize t < wordCount) (h : IsBoundary t n) :
    offsetOf t (lineOf t n) (columnOf t n + 1) = n ∧
      offsetOf? t (lineOf t n) (columnOf t n + 1) = some n := by
  have hplace : placeOf t (lineOf t n) (columnOf t n + 1) = n := by
    rw [placeOf, Nat.add_sub_cancel, lineStart_add_columnOf h]
  have hword : placeOf t (lineOf t n) (columnOf t n + 1) < wordCount := by
    rw [hplace]
    exact Nat.lt_of_le_of_lt h.le_byteSize ht
  have hoffset : offsetOf t (lineOf t n) (columnOf t n + 1) = n := by
    rw [offsetOf_of_lt hword, hplace, floorBoundary_of_isBoundary h]
  exact ⟨hoffset, by rw [offsetOf?_of_lt hword, hoffset]⟩

end PlotDeck.Text

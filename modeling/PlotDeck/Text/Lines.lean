/-!
# Lines

A text falls into **lines**, each with the line feed that ends it; only the last line may lack one.
`flatten_lines` says that nothing is lost, `lines_ne_nil` that no line is empty.
-/

namespace PlotDeck.Text

/-- The lines of a text, line feeds included. -/
def lines : List Char → List (List Char)
  | [] => []
  | c :: r =>
    if c = '\n' then [c] :: lines r
    else match lines r with
      | [] => [[c]]
      | l :: ls => (c :: l) :: ls

@[simp] theorem lines_nil : lines [] = [] := rfl

/-- The lines of a text put together are the text. -/
@[simp] theorem flatten_lines (t : List Char) : (lines t).flatten = t := by
  induction t with
  | nil => rfl
  | cons c r ih =>
    rw [lines]
    split
    · simp [ih]
    · split <;> simp_all

/-- No line is empty. -/
theorem lines_ne_nil {t l : List Char} (h : l ∈ lines t) : l ≠ [] := by
  induction t generalizing l with
  | nil => simp at h
  | cons c r ih =>
    rw [lines] at h
    split at h
    · rcases List.mem_cons.1 h with rfl | h
      · simp
      · exact ih h
    · split at h
      · simp_all
      · rename_i l' ls hl
        rcases List.mem_cons.1 h with rfl | h
        · simp
        · exact ih (hl ▸ List.mem_cons_of_mem _ h)

end PlotDeck.Text

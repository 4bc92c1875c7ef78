/-!
# Blank characters and trimming

A character is **blank** when the Unicode standard gives it the property `White_Space`. Slide
templates are judged by their trimmed text: a line is empty, a line break or the end of an
environment whatever blanks surround it.

`trimStart`, `trimEnd` and `trim` cut blanks off a text. The main statements say that what was cut
is blank and that nothing is left of a text that is blank throughout (`trimEnd_append_blank`,
`trim_eq_nil_iff`).
-/

namespace PlotDeck.Text

/-- The property `White_Space`: the five controls from tab to carriage return, the space, the next
line control, the no-break space and the seventeen spaces and separators above it. -/
def isBlank (c : Char) : Bool :=
  let n := c.toNat
  (9 ≤ n && n ≤ 13) || n == 0x20 || n == 0x85 || n == 0xA0 || n == 0x1680 ||
    (0x2000 ≤ n && n ≤ 0x200A) || n == 0x2028 || n == 0x2029 || n == 0x202F || n == 0x205F ||
    n == 0x3000

/-- The text without its leading blanks. -/
def trimStart (t : List Char) : List Char := t.dropWhile isBlank

/-- The text without its trailing blanks. -/
def trimEnd (t : List Char) : List Char := (t.reverse.dropWhile isBlank).reverse

/-- The text without its leading and trailing blanks. -/
def trim (t : List Char) : List Char := trimEnd (trimStart t)

/-! ### Small laws -/

@[simp] theorem trimStart_nil : trimStart [] = [] := rfl

@[simp] theorem trimEnd_nil : trimEnd [] = [] := rfl

@[simp] theorem trim_nil : trim [] = [] := rfl

/-- A text is its trimmed form followed by blanks. -/
theorem trimEnd_append_blank (t : List Char) :
    ∃ w, t = trimEnd t ++ w ∧ ∀ c ∈ w, isBlank c = true := by
  refine ⟨(t.reverse.takeWhile isBlank).reverse, ?_, ?_⟩
  · rw [trimEnd, ← List.reverse_append, List.takeWhile_append_dropWhile, List.reverse_reverse]
  · intro c hc
    have hall := List.all_takeWhile (p := isBlank) (l := t.reverse)
    exact List.all_eq_true.1 hall c (List.mem_reverse.1 hc)

theorem trimStart_eq_nil_iff {t : List Char} :
    trimStart t = [] ↔ ∀ c ∈ t, isBlank c = true := by
  induction t with
  | nil => simp
  | cons c r ih =>
    rw [trimStart, List.dropWhile_cons]
    split
    · simp_all [trimStart]
    · simp [*]

/-- Nothing is left of a text exactly when it is blank throughout. -/
theorem trim_eq_nil_iff {t : List Char} : trim t = [] ↔ ∀ c ∈ t, isBlank c = true := by
  rw [← trimStart_eq_nil_iff, trim]
  refine ⟨fun h => ?_, fun h => by rw [h, trimEnd_nil]⟩
  obtain ⟨w, hw, hblank⟩ := trimEnd_append_blank (trimStart t)
  rw [h, List.nil_append] at hw
  cases hs : trimStart t with
  | nil => rfl
  | cons c r =>
    have hc := List.head?_dropWhile_not isBlank t
    rw [← trimStart, hs] at hc
    rw [hs] at hw
    have := hblank c (hw ▸ List.mem_cons_self)
    exact absurd this (by simpa using hc)

end PlotDeck.Text

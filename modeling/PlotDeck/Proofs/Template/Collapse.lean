import PlotDeck.Template.Line

/-!
# The lines that a collapse keeps

`keptTexts` carries a held line break along until the next kept line has been read. Here the same
decision is made by looking ahead: `keeps` marks each filled line as kept or not, and
`keptTexts_eq_pick` says that the texts of the marked lines are the kept texts. Since the marks of a
line depend on what stands before only through one Boolean, and on what follows only where a line
break is to be judged, blocks of lines can be read one after the other (`Settles.append`).
-/

namespace PlotDeck.Template

/-! ### Marks -/

/-- The items at marked positions. -/
def pick {α : Type} : List Bool → List α → List α
  | b :: marks, x :: xs => if b then x :: pick marks xs else pick marks xs
  | _, _ => []

section Pick

variable {α β : Type}

@[simp] theorem pick_nil (marks : List Bool) : pick marks ([] : List α) = [] := by
  cases marks <;> rfl

@[simp] theorem pick_cons_true (marks : List Bool) (x : α) (xs : List α) :
    pick (true :: marks) (x :: xs) = x :: pick marks xs := rfl

@[simp] theorem pick_cons_false (marks : List Bool) (x : α) (xs : List α) :
    pick (false :: marks) (x :: xs) = pick marks xs := rfl

theorem pick_cons (b : Bool) (marks : List Bool) (x : α) (xs : List α) :
    pick (b :: marks) (x :: xs) = (if b then [x] else []) ++ pick marks xs := by
  cases b <;> rfl

theorem pick_append {marks marks' : List Bool} {xs xs' : List α}
    (h : marks.length = xs.length) :
    pick (marks ++ marks') (xs ++ xs') = pick marks xs ++ pick marks' xs' := by
  induction marks generalizing xs with
  | nil =>
    obtain rfl : xs = [] := List.eq_nil_of_length_eq_zero h.symm
    rfl
  | cons b marks ih =>
    cases xs with
    | nil => simp at h
    | cons x xs =>
      simp only [List.length_cons, Nat.add_right_cancel_iff] at h
      simp only [List.cons_append, pick_cons, ih h, List.append_assoc]

theorem pick_map (f : α → β) (marks : List Bool) (xs : List α) :
    pick marks (xs.map f) = (pick marks xs).map f := by
  induction xs generalizing marks with
  | nil => simp
  | cons x xs ih => cases marks with
    | nil => rfl
    | cons b marks => cases b <;> simp [ih]

/-- A picked item stands at a marked position. -/
theorem mem_pick_iff {marks : List Bool} {xs : List α} {x : α} :
    x ∈ pick marks xs ↔ ∃ i : Nat, marks[i]? = some true ∧ xs[i]? = some x := by
  induction xs generalizing marks with
  | nil => simp
  | cons y ys ih =>
    cases marks with
    | nil => simp [pick]
    | cons b marks =>
      rw [pick_cons, List.mem_append, ih]
      constructor
      · rintro (h | ⟨i, hm, hx⟩)
        · cases b with
          | false => simp at h
          | true => exact ⟨0, rfl, by simpa [eq_comm] using h⟩
        · exact ⟨i + 1, hm, hx⟩
      · rintro ⟨i, hm, hx⟩
        cases i with
        | zero =>
          obtain rfl : b = true := by simpa using hm
          exact .inl (by simpa [eq_comm] using hx)
        | succ i => exact .inr ⟨i, hm, hx⟩

theorem pick_sublist (marks : List Bool) (xs : List α) : (pick marks xs).Sublist xs := by
  induction xs generalizing marks with
  | nil => simp
  | cons x xs ih =>
    cases marks with
    | nil => exact List.nil_sublist _
    | cons b marks => cases b with
      | false => exact (ih marks).cons x
      | true => exact (ih marks).cons_cons x

theorem mem_of_mem_pick {marks : List Bool} {xs : List α} {x : α} (h : x ∈ pick marks xs) :
    x ∈ xs :=
  (pick_sublist marks xs).subset h

theorem mem_pick_range_iff {marks : List Bool} {n i : Nat} (h : marks.length = n) :
    i ∈ pick marks (List.range n) ↔ marks[i]? = some true := by
  rw [mem_pick_iff]
  constructor
  · rintro ⟨j, hj, hi⟩
    obtain ⟨-, rfl⟩ : j < n ∧ j = i := by simpa [List.getElem?_eq_some_iff] using hi
    exact hj
  · intro hi
    have hlt : i < n := h ▸ (List.getElem?_eq_some_iff.1 hi).1
    exact ⟨i, hi, by simp [hlt]⟩

/-- Marks of full length are determined by the positions that they mark. -/
theorem pick_range_inj {marks marks' : List Bool} {n : Nat} (h : marks.length = n)
    (h' : marks'.length = n) (he : pick marks (List.range n) = pick marks' (List.range n)) :
    marks = marks' := by
  refine List.ext_getElem? fun i => ?_
  -- within the range, two marks are equal as soon as they are true together
  have hi : marks[i]? = some true ↔ marks'[i]? = some true := by
    rw [← mem_pick_range_iff h, ← mem_pick_range_iff h', he]
  rcases Nat.lt_or_ge i n with hlt | hge
  · rw [List.getElem?_eq_getElem (h ▸ hlt), List.getElem?_eq_getElem (h' ▸ hlt)] at hi ⊢
    rw [Option.some_inj] at hi ⊢
    exact Bool.eq_iff_iff.2 (by simpa using hi)
  · rw [List.getElem?_eq_none (h ▸ hge), List.getElem?_eq_none (h' ▸ hge)]

end Pick

/-- The text of the line at a position; there is none behind the last line. -/
def textAt (ls : List Line) (i : Nat) : List Char := (ls[i]?.map Line.text).getD []

theorem map_text_eq_map_textAt (ls : List Line) :
    ls.map Line.text = (List.range ls.length).map (textAt ls) := by
  refine List.ext_getElem (by simp) fun i hi _ => ?_
  have hlt : i < ls.length := by simpa using hi
  simp [textAt, hlt]

/-! ### Which lines stay -/

/-- Whether a line break would be lost before these lines: the first of them that is neither removed
nor a break closes an environment, and a line has been removed on the way to it. -/
def losesBreak (removed : Bool) : List Line → Bool
  | [] => false
  | l :: ls =>
    if l.isRemoved then losesBreak true ls
    else if l.isBreak then losesBreak removed ls
    else removed && l.closes

/-- Whether content follows that ends with this line. -/
def Line.endsContent (l : Line) : Bool := !(l.isBlank || l.opens)

/-- Which lines stay, where `after` says whether they follow content. -/
def keeps (after : Bool) : List Line → List Bool
  | [] => []
  | l :: ls =>
    if l.isRemoved then false :: keeps after ls
    else if l.isBreak then (after && !losesBreak false ls) :: keeps false ls
    else true :: keeps l.endsContent ls

@[simp] theorem length_keeps (after : Bool) (ls : List Line) :
    (keeps after ls).length = ls.length := by
  induction ls generalizing after with
  | nil => rfl
  | cons l ls ih =>
    rw [keeps]
    split
    · simp [ih]
    · split <;> simp [ih]

/-- What a held line break contributes in front of these lines. -/
def heldText (s : Collapsing) (ls : List Line) : List (List Char) :=
  if losesBreak s.removedSince ls then [] else s.held.toList

theorem keptTexts_eq_append (s : Collapsing) (ls : List Line)
    (hs : s.held.isSome → s.endsContent = false) :
    keptTexts s ls = heldText s ls ++ pick (keeps s.endsContent ls) (ls.map Line.text) := by
  induction ls generalizing s with
  | nil => simp [keptTexts, heldText, losesBreak]
  | cons l ls ih =>
    rw [keptTexts]
    by_cases hr : l.isRemoved
    · rw [if_pos hr, ih { s with removedSince := true } hs]
      simp [heldText, losesBreak, keeps, hr]
    · rw [if_neg hr]
      by_cases hb : l.isBreak
      · rw [if_pos hb]
        by_cases he : s.endsContent
        · -- a break after content: nothing is held yet, and this break is held from here on
          have hheld : s.held = none := by
            cases hh : s.held with
            | none => rfl
            | some b => simp [hs (by simp [hh])] at he
          rw [if_pos he, ih _ (fun _ => rfl)]
          cases hl : losesBreak false ls <;>
            simp [heldText, losesBreak, keeps, hr, hb, he, hheld, hl]
        · have he : s.endsContent = false := by simpa using he
          rw [if_neg (by simp [he]), ih _ hs]
          simp [heldText, losesBreak, keeps, hr, hb, he]
      · rw [if_neg hb, ih _ (by simp)]
        simp [heldText, losesBreak, keeps, hr, hb, Line.endsContent]

/-- The kept texts are the texts of the lines that stay. -/
theorem keptTexts_eq_pick (ls : List Line) :
    keptTexts {} ls = pick (keeps false ls) (ls.map Line.text) := by
  -- at the start no break is held, so nothing is contributed in front
  have h := keptTexts_eq_append {} ls (by simp)
  simpa [heldText] using h

theorem collapse_eq_flatten_pick (ls : List Line) :
    collapse ls = (pick (keeps false ls) (ls.map Line.text)).flatten := by
  rw [collapse, keptTexts_eq_pick]

/-! ### Reading block by block -/

theorem keeps_cons_of_removed {l : Line} (h : l.isRemoved = true) (after : Bool)
    (ls : List Line) : keeps after (l :: ls) = false :: keeps after ls := by
  rw [keeps, if_pos h]

theorem keeps_cons_of_break {l : Line} (hr : l.isRemoved = false) (hb : l.isBreak = true)
    (after : Bool) (ls : List Line) :
    keeps after (l :: ls) = (after && !losesBreak false ls) :: keeps false ls := by
  rw [keeps, if_neg (by simp [hr]), if_pos hb]

theorem keeps_cons_of_kept {l : Line} (hr : l.isRemoved = false) (hb : l.isBreak = false)
    (after : Bool) (ls : List Line) :
    keeps after (l :: ls) = true :: keeps l.endsContent ls := by
  rw [keeps, if_neg (by simp [hr]), if_neg (by simp [hb])]

/-- A line that is neither removed nor a break stays wherever it stands. -/
theorem keeps_getElem?_of_kept {ls : List Line} {l : Line} {i : Nat} (h : ls[i]? = some l)
    (hr : l.isRemoved = false) (hb : l.isBreak = false) (after : Bool) :
    (keeps after ls)[i]? = some true := by
  induction ls generalizing after i with
  | nil => simp at h
  | cons m ls ih =>
    cases i with
    | zero =>
      obtain rfl : m = l := by simpa using h
      rw [keeps_cons_of_kept hr hb]
      rfl
    | succ i =>
      have h : ls[i]? = some l := by simpa using h
      rw [keeps]
      split
      · exact ih h _
      · split
        · exact ih h _
        · exact ih h _

/-- A block of lines **settles** when its marks do not depend on what follows it. After content, as
`after` says, it is marked by `marks`, and `after'` says whether it ends with content. -/
def Settles (after : Bool) (ls : List Line) (marks : List Bool) (after' : Bool) : Prop :=
  ∀ rest, keeps after (ls ++ rest) = marks ++ keeps after' rest

namespace Settles

variable {a b c : Bool} {ls ls' : List Line} {marks marks' : List Bool}

theorem append (h : Settles a ls marks b) (h' : Settles b ls' marks' c) :
    Settles a (ls ++ ls') (marks ++ marks') c := by
  intro rest
  rw [List.append_assoc, h, h', List.append_assoc]

theorem keeps_eq (h : Settles a ls marks b) : keeps a ls = marks := by
  simpa [keeps] using h []

theorem length_eq (h : Settles a ls marks b) : marks.length = ls.length := by
  rw [← h.keeps_eq, length_keeps]

/-- A line that is neither removed nor a break settles. -/
theorem of_kept {l : Line} (hr : l.isRemoved = false) (hb : l.isBreak = false) (a : Bool) :
    Settles a [l] [true] l.endsContent :=
  fun rest => keeps_cons_of_kept hr hb a rest

/-- A removed line settles. -/
theorem of_removed {l : Line} (h : l.isRemoved = true) (a : Bool) : Settles a [l] [false] a :=
  fun rest => keeps_cons_of_removed h a rest

/-- A break that follows no content settles. -/
theorem of_break {l : Line} (hr : l.isRemoved = false) (hb : l.isBreak = true) :
    Settles false [l] [false] false :=
  fun rest => keeps_cons_of_break hr hb false rest

/-- A break settles together with lines that decide, whatever follows them, whether it is lost. -/
theorem of_break_append {l : Line} {lost : Bool} (hr : l.isRemoved = false)
    (hb : l.isBreak = true) (hlost : ∀ rest, losesBreak false (ls ++ rest) = lost)
    (h : Settles false ls marks c) (a : Bool) :
    Settles a (l :: ls) ((a && !lost) :: marks) c := by
  intro rest
  rw [List.cons_append, keeps_cons_of_break hr hb, hlost, h]
  rfl

end Settles

end PlotDeck.Template

import PlotDeck.Proofs.Template.Collapse

/-!
# Which lines stay, position by position

The collapse of filled lines is one pass that holds a line break back and carries two flags along.
Here it is read position by position. A line **stands** if it is neither removed nor a line break;
such a line stays wherever it is. A line break stays exactly if it **follows content**, which is
told by the nearest line before it that is not removed (`FollowsContent`), and does not **lead to an
end**, which is told by the first line after it that stands and by what is removed on the way there
(`LeadsToEnd`). `collapse_eq_flatMap_textAt` says that the collapsed text consists of the texts at
the positions that stay, each once and in order.

The flags are related to the history in two steps. What the pass knows of the lines before a
position is `FollowsFrom`, which a single line changes as the pass does (`followsFrom_cons_succ`).
What it will find behind a position is read off the lines there (`losesBreak_iff`).
-/

namespace PlotDeck.Template

namespace Line

/-- Whether a line is neither removed nor a line break. -/
def stands (l : Line) : Bool := !(l.isRemoved || l.isBreak)

/-- Whether a line break can follow a line: it stands, is not blank, and opens no environment. -/
def isContent (l : Line) : Bool := l.stands && l.endsContent

variable {l : Line}

theorem stands_iff : l.stands = true ↔ l.isRemoved = false ∧ l.isBreak = false := by
  rw [stands, Bool.not_eq_true', Bool.or_eq_false_iff]

theorem stands_eq_false_iff : l.stands = false ↔ l.isRemoved = true ∨ l.isBreak = true := by
  rw [stands, Bool.not_eq_false', Bool.or_eq_true]

end Line

/-- The position **follows content**: the nearest line before it that is not removed is there, and a
line break can follow it. -/
def FollowsContent (ls : List Line) (i : Nat) : Prop :=
  ∃ h < i, ls[h]?.any Line.isContent = true ∧ ∀ j < i, h < j → ls[j]?.any Line.isRemoved = true

/-- The position **leads to an end**: the first line after it that stands is there and closes an
environment, and a line between the two is removed. -/
def LeadsToEnd (ls : List Line) (i : Nat) : Prop :=
  ∃ k < ls.length, i < k ∧ ls[k]?.any (fun l => l.stands && l.closes) = true ∧
    (∀ j < k, i < j → ls[j]?.any Line.stands = false) ∧
    ∃ j < k, i < j ∧ ls[j]?.any Line.isRemoved = true

/-- The line at the position **stays**: it is there and not removed, and if it is a line break, it
follows content and does not lead to an end. -/
def StaysAt (ls : List Line) (i : Nat) : Prop :=
  ∃ l ∈ ls[i]?, l.isRemoved = false ∧
    (l.isBreak = true → FollowsContent ls i ∧ ¬LeadsToEnd ls i)

instance (ls : List Line) : DecidablePred (FollowsContent ls) := fun i =>
  inferInstanceAs (Decidable (∃ h < i, _ ∧ ∀ j < i, h < j → _))

instance (ls : List Line) : DecidablePred (LeadsToEnd ls) := fun i =>
  inferInstanceAs (Decidable (∃ k < ls.length,
    i < k ∧ _ ∧ (∀ j < k, i < j → _) ∧ ∃ j < k, i < j ∧ _))

instance (ls : List Line) : DecidablePred (StaysAt ls) := fun i =>
  inferInstanceAs (Decidable (∃ l ∈ ls[i]?, _))

/-! ### What stands before a position -/

section Before

variable {m : Line} {ls : List Line} {i : Nat} {after : Bool}

/-- What is known of the lines before a position, if `after` says whether content stands before all
of them: the position follows content among them, or they are all removed and there was content. -/
def FollowsFrom (after : Bool) (ls : List Line) (i : Nat) : Prop :=
  FollowsContent ls i ∨ after = true ∧ ∀ j < i, ls[j]?.any Line.isRemoved = true

theorem followsFrom_false : FollowsFrom false ls i ↔ FollowsContent ls i := by
  simp [FollowsFrom]

theorem followsFrom_zero : FollowsFrom after ls 0 ↔ after = true := by
  simp [FollowsFrom, FollowsContent]

/-- Content before the first line is followed across removed lines only. -/
theorem followsContent_cons_succ : FollowsContent (m :: ls) (i + 1) ↔
    FollowsContent ls i ∨ m.isContent = true ∧ ∀ j < i, ls[j]?.any Line.isRemoved = true := by
  constructor
  · rintro ⟨h, hlt, hcontent, hgone⟩
    cases h with
    | zero =>
      refine .inr ⟨by simpa using hcontent, fun j hj => ?_⟩
      simpa using hgone (j + 1) (by omega) (by omega)
    | succ h =>
      refine .inl ⟨h, by omega, by simpa using hcontent, fun j hj hlater => ?_⟩
      simpa using hgone (j + 1) (by omega) (by omega)
  · rintro (⟨h, hlt, hcontent, hgone⟩ | ⟨hcontent, hgone⟩)
    · refine ⟨h + 1, by omega, by simpa using hcontent, fun j hj hlater => ?_⟩
      obtain ⟨j, rfl⟩ : ∃ n, j = n + 1 := ⟨j - 1, by omega⟩
      simpa using hgone j (by omega) (by omega)
    · refine ⟨0, by omega, by simpa using hcontent, fun j hj hlater => ?_⟩
      obtain ⟨j, rfl⟩ : ∃ n, j = n + 1 := ⟨j - 1, by omega⟩
      simpa using hgone j (by omega)

/-- One line changes what is known as the pass over the lines does: a removed line changes nothing,
and after any other line it counts whether that is content. -/
theorem followsFrom_cons_succ : FollowsFrom after (m :: ls) (i + 1) ↔
    FollowsFrom (if m.isRemoved then after else m.isContent) ls i := by
  have hall : (∀ j < i + 1, (m :: ls)[j]?.any Line.isRemoved = true) ↔
      m.isRemoved = true ∧ ∀ j < i, ls[j]?.any Line.isRemoved = true := by
    rw [Nat.forall_lt_succ_left']
    simp
  rw [FollowsFrom, FollowsFrom, followsContent_cons_succ, hall]
  cases hr : m.isRemoved with
  | true =>
    have hcontent : m.isContent = false := by simp [Line.isContent, Line.stands, hr]
    simp [hcontent]
  | false => simp

end Before

/-! ### What stands behind a position -/

/-- A line break is lost before lines exactly if the first of them that stands closes an environment
and a line has been removed before it. -/
theorem losesBreak_iff {ls : List Line} {removed : Bool} : losesBreak removed ls = true ↔
    ∃ k < ls.length, ls[k]?.any (fun l => l.stands && l.closes) = true ∧
      (∀ j < k, ls[j]?.any Line.stands = false) ∧
      (removed = true ∨ ∃ j < k, ls[j]?.any Line.isRemoved = true) := by
  induction ls generalizing removed with
  | nil => simp [losesBreak]
  | cons m ls ih =>
    rw [losesBreak, List.length_cons, Nat.exists_lt_succ_left]
    simp only [Nat.forall_lt_succ_left', Nat.exists_lt_succ_left, List.getElem?_cons_zero,
      List.getElem?_cons_succ, Option.any_some]
    cases hr : m.isRemoved with
    | true =>
      -- a removed line does not stand, and has been removed before all lines after it
      have hstands : m.stands = false := by simp [Line.stands, hr]
      simp [hstands, ih]
    | false =>
      cases hb : m.isBreak with
      | true =>
        have hstands : m.stands = false := by simp [Line.stands, hb]
        simp [hstands, ih]
      | false =>
        -- the line stands, so it is the first that does
        have hstands : m.stands = true := Line.stands_iff.2 ⟨hr, hb⟩
        simp [hstands, and_comm]

theorem losesBreak_drop_iff {ls : List Line} {i : Nat} :
    losesBreak false (ls.drop (i + 1)) = true ↔ LeadsToEnd ls i := by
  rw [losesBreak_iff]
  simp only [List.getElem?_drop, List.length_drop, Bool.false_eq_true, false_or]
  constructor
  · rintro ⟨k, hk, hend, hnone, g, hg, hgone⟩
    refine ⟨i + 1 + k, by omega, by omega, hend, fun j hj hlater => ?_,
      i + 1 + g, by omega, by omega, hgone⟩
    obtain ⟨j, rfl⟩ : ∃ n, j = i + 1 + n := ⟨j - (i + 1), by omega⟩
    exact hnone j (by omega)
  · rintro ⟨k, hk, hlater, hend, hnone, g, hg, hbehind, hgone⟩
    obtain ⟨k, rfl⟩ : ∃ n, k = i + 1 + n := ⟨k - (i + 1), by omega⟩
    obtain ⟨g, rfl⟩ : ∃ n, g = i + 1 + n := ⟨g - (i + 1), by omega⟩
    exact ⟨k, by omega, hend, fun j hj => hnone (i + 1 + j) (by omega) (by omega),
      g, by omega, hgone⟩

/-! ### The marks of lines -/

/-- The mark of a line, where content may stand before all lines. -/
theorem getElem?_keeps_iff {ls : List Line} {after : Bool} {i : Nat} :
    (keeps after ls)[i]? = some true ↔ ∃ l ∈ ls[i]?, l.isRemoved = false ∧
      (l.isBreak = true → FollowsFrom after ls i ∧ losesBreak false (ls.drop (i + 1)) = false) := by
  induction ls generalizing after i with
  | nil => simp [keeps]
  | cons m ls ih =>
    cases i with
    | zero =>
      rw [keeps]
      simp only [List.getElem?_cons_zero, Option.mem_def, Option.some_inj, exists_eq_left',
        followsFrom_zero, Nat.zero_add, List.drop_succ_cons, List.drop_zero]
      cases hr : m.isRemoved with
      | true => simp
      | false => cases hb : m.isBreak <;> simp
    | succ i =>
      -- the marks after the first line are those of a pass that starts with what it leaves
      have hkeeps : (keeps after (m :: ls))[i + 1]?
          = (keeps (if m.isRemoved then after else m.isContent) ls)[i]? := by
        rw [keeps]
        cases hr : m.isRemoved with
        | true => simp
        | false => cases hb : m.isBreak <;> simp [Line.isContent, Line.stands, hr, hb]
      rw [hkeeps, ih]
      simp only [List.getElem?_cons_succ, List.drop_succ_cons, followsFrom_cons_succ]

/-- The marked lines are those that stay. -/
theorem staysAt_iff {ls : List Line} {i : Nat} :
    StaysAt ls i ↔ (keeps false ls)[i]? = some true := by
  rw [getElem?_keeps_iff]
  simp only [followsFrom_false, ← Bool.not_eq_true, losesBreak_drop_iff, StaysAt]

theorem keeps_eq_map_range (ls : List Line) :
    keeps false ls = (List.range ls.length).map fun i => decide (StaysAt ls i) := by
  refine List.ext_getElem (by simp) fun i hi _ => ?_
  have hmark : (keeps false ls)[i]? = some (keeps false ls)[i] := List.getElem?_eq_getElem hi
  rw [List.getElem_map, List.getElem_range, Bool.eq_iff_iff, decide_eq_true_eq, staysAt_iff, hmark,
    Option.some_inj]

theorem pick_map_self {α : Type} (p : α → Bool) (xs : List α) :
    pick (xs.map p) xs = xs.filter p := by
  induction xs with
  | nil => rfl
  | cons x xs ih => cases hp : p x <;> simp [hp, ih]

/-- **The collapse, position by position**: the collapsed text consists of the texts of the lines
that stay, in order and each once. -/
theorem collapse_eq_flatMap_textAt (ls : List Line) :
    collapse ls
      = ((List.range ls.length).filter fun i => decide (StaysAt ls i)).flatMap (textAt ls) := by
  rw [collapse_eq_flatten_pick, map_text_eq_map_textAt, pick_map, keeps_eq_map_range, pick_map_self,
    List.flatMap_def]

end PlotDeck.Template

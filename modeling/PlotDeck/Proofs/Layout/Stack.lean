import PlotDeck.Proofs.Layout.Panel

/-!
# Stacks of panels

Which lines of a stack stay (`settles_stack`). The plots of a stack ascend, so the panels without a
plot are its last ones: a line break between two panels stays exactly when the second one is filled.
-/

namespace PlotDeck

open Template Text

/-- The plots of a stack can be written, and they ascend. -/
structure IsColumn (plots : List Nat) : Prop where
  /-- Every plot number can be written. -/
  index : ∀ k ∈ plots, IsIndex k
  /-- Later panels hold later plots. -/
  ascending : plots.Pairwise (· < ·)

theorem IsColumn.tail {k : Nat} {plots : List Nat} (h : IsColumn (k :: plots)) :
    IsColumn plots where
  index := fun j hj => h.index j (List.mem_cons_of_mem k hj)
  ascending := (List.pairwise_cons.1 h.ascending).2

namespace Builtin

variable {s : Slide} {width : String} {breakAfter : Bool}

/-- What follows the line that opens a stack. -/
def stackBody (width : String) (breakAfter : Bool) (plots : List Nat) : List Row :=
  List.intercalate [lineBreak] (plots.map (panel width)) ++
    ((if breakAfter then [lineBreak] else []) ++ [closing "center"])

theorem stack_eq_cons (width : String) (plots : List Nat) (breakAfter : Bool) :
    stack width plots breakAfter = opening "center" "" :: stackBody width breakAfter plots := by
  simp [stack, centred, environment, stackBody]

theorem stackBody_nil :
    stackBody width breakAfter []
      = (if breakAfter then [lineBreak] else []) ++ [closing "center"] :=
  rfl

theorem stackBody_singleton (k : Nat) :
    stackBody width breakAfter [k] = panel width k ++ stackBody width breakAfter [] := by
  simp [stackBody, List.intercalate]

theorem stackBody_cons_cons (k k' : Nat) (ks : List Nat) :
    stackBody width breakAfter (k :: k' :: ks)
      = panel width k ++ lineBreak :: stackBody width breakAfter (k' :: ks) := by
  simp [stackBody, List.intercalate]

/-! ### What a line break sees -/

theorem closing_center :
    ((closing "center").fill s).isRemoved = false ∧ ((closing "center").fill s).isBreak = false ∧
      ((closing "center").fill s).endsContent = true ∧
      ((closing "center").fill s).closes = true := by
  rw [fill_closing_center]
  decide

theorem losesBreak_panel_some {k : Nat} {p : Plot} (hk : IsIndex k) (hw : IsWidth width)
    (hp : s.plot? k = some p) (rest : List Line) :
    losesBreak false ((panel width k).map (Row.fill s) ++ rest) = false := by
  obtain ⟨hremoved, hbreak, -, hcloses⟩ := kept_image hk hw hp
  obtain ⟨hremoved', hbreak'⟩ := isBreak_lineBreak (s := s)
  simp only [panel, List.map_cons, List.map_nil, List.cons_append, List.nil_append]
  -- a caption that is removed or a break is passed over; then the image decides
  have himage : ∀ r, losesBreak r (lineBreak.fill s :: (image width k).fill s :: rest) = false := by
    simp [losesBreak, hremoved, hremoved', hbreak, hbreak', hcloses]
  rw [losesBreak]
  split
  · exact himage true
  · split
    · exact himage false
    · rfl

theorem losesBreak_panel_none {k : Nat} (hk : IsIndex k) (hw : IsWidth width)
    (hp : s.plot? k = none) (r : Bool) (rest : List Line) :
    losesBreak r ((panel width k).map (Row.fill s) ++ rest) = losesBreak true rest := by
  obtain ⟨hremoved', hbreak'⟩ := isBreak_lineBreak (s := s)
  simp [panel, losesBreak, isRemoved_caption hk hp, isRemoved_image hk hw hp, hremoved', hbreak']

theorem losesBreak_lineBreak (r : Bool) (rest : List Line) :
    losesBreak r (lineBreak.fill s :: rest) = losesBreak r rest := by
  obtain ⟨hremoved', hbreak'⟩ := isBreak_lineBreak (s := s)
  simp [losesBreak, hremoved', hbreak']

theorem losesBreak_end (r : Bool) (rest : List Line) :
    losesBreak r ((stackBody width breakAfter []).map (Row.fill s) ++ rest) = r := by
  obtain ⟨hremoved, hbreak, -, hcloses⟩ := closing_center (s := s)
  rw [stackBody_nil]
  cases breakAfter with
  | false => simp [losesBreak, hremoved, hbreak, hcloses]
  | true => simp [losesBreak_lineBreak, losesBreak, hremoved, hbreak, hcloses]

/-- A line break before panels that are all missing is lost. -/
theorem losesBreak_missing {plots : List Nat} (hc : IsColumn plots) (hw : IsWidth width)
    (hp : ∀ k ∈ plots, s.plot? k = none) (rest : List Line) :
    losesBreak true ((stackBody width breakAfter plots).map (Row.fill s) ++ rest) = true := by
  induction plots with
  | nil => exact losesBreak_end true rest
  | cons k ks ih =>
    have hk := hc.index k List.mem_cons_self
    have hpk := hp k List.mem_cons_self
    cases ks with
    | nil =>
      rw [stackBody_singleton, List.map_append, List.append_assoc, losesBreak_panel_none hk hw hpk,
        losesBreak_end]
    | cons k' ks =>
      rw [stackBody_cons_cons, List.map_append, List.append_assoc, losesBreak_panel_none hk hw hpk,
        List.map_cons, List.cons_append, losesBreak_lineBreak]
      exact ih hc.tail fun j hj => hp j (List.mem_cons_of_mem k hj)

/-- A line break before a panel is lost exactly when the panel is missing. -/
theorem losesBreak_stackBody {k : Nat} {ks : List Nat} (hc : IsColumn (k :: ks))
    (hw : IsWidth width) (rest : List Line) :
    losesBreak false ((stackBody width breakAfter (k :: ks)).map (Row.fill s) ++ rest)
      = (s.plot? k).isNone := by
  have hk := hc.index k List.mem_cons_self
  cases hp : s.plot? k with
  | some p =>
    cases ks with
    | nil =>
      rw [stackBody_singleton, List.map_append, List.append_assoc, losesBreak_panel_some hk hw hp]
      rfl
    | cons k' ks =>
      rw [stackBody_cons_cons, List.map_append, List.append_assoc, losesBreak_panel_some hk hw hp]
      rfl
  | none =>
    -- the plots ascend, so all later panels are missing too
    have hmissing : ∀ j ∈ k :: ks, s.plot? j = none := by
      intro j hj
      rcases List.mem_cons.1 hj with rfl | hj
      · exact hp
      · exact Slide.plot?_eq_none_of_lt hk.1 ((List.pairwise_cons.1 hc.ascending).1 j hj) hp
    cases ks with
    | nil =>
      rw [stackBody_singleton, List.map_append, List.append_assoc, losesBreak_panel_none hk hw hp,
        losesBreak_end]
      rfl
    | cons k' ks =>
      rw [stackBody_cons_cons, List.map_append, List.append_assoc, losesBreak_panel_none hk hw hp,
        List.map_cons, List.cons_append, losesBreak_lineBreak]
      exact losesBreak_missing hc.tail hw (fun j hj => hmissing j (List.mem_cons_of_mem k hj)) rest

/-! ### The marks of a stack -/

theorem settles_end (a : Bool) :
    Settles a ((stackBody width breakAfter []).map (Row.fill s))
      ((if breakAfter then [a] else []) ++ [true]) true := by
  obtain ⟨hremoved, hbreak, hends, -⟩ := closing_center (s := s)
  have hclosing : ∀ a, Settles a [(closing "center").fill s] [true] true := fun a =>
    hends ▸ Settles.of_kept hremoved hbreak a
  rw [stackBody_nil]
  cases breakAfter with
  | false => exact hclosing a
  | true =>
    obtain ⟨hremoved', hbreak'⟩ := isBreak_lineBreak (s := s)
    have hlost : ∀ rest, losesBreak false ([(closing "center").fill s] ++ rest) = false := by
      simp [losesBreak, hremoved, hbreak]
    simpa using Settles.of_break_append hremoved' hbreak' hlost (hclosing false) a

/-- Behind a panel, the line break before the next one stays where the next one is filled. -/
theorem settles_break {k k' : Nat} {ks : List Nat} {marks : List Bool}
    (hc : IsColumn (k :: k' :: ks)) (hw : IsWidth width)
    (h : Settles false ((stackBody width breakAfter (k' :: ks)).map (Row.fill s)) marks true) :
    Settles (s.plot? k).isSome
      ((lineBreak :: stackBody width breakAfter (k' :: ks)).map (Row.fill s))
      ((s.plot? k').isSome :: marks) true := by
  obtain ⟨hremoved', hbreak'⟩ := isBreak_lineBreak (s := s)
  have hlt : k < k' := (List.pairwise_cons.1 hc.ascending).1 k' List.mem_cons_self
  have hmark : (s.plot? k').isSome = ((s.plot? k).isSome && !(s.plot? k').isNone) := by
    cases hp : s.plot? k with
    | some p => simp
    | none => simp [Slide.plot?_eq_none_of_lt (hc.index k List.mem_cons_self).1 hlt hp]
  rw [hmark]
  exact Settles.of_break_append hremoved' hbreak' (losesBreak_stackBody hc.tail hw) h _

theorem settles_stackBody {plots : List Nat} (hc : IsColumn plots) (hw : IsWidth width) :
    Settles false ((stackBody width breakAfter plots).map (Row.fill s))
      (s.stackMarks breakAfter plots) true := by
  induction plots with
  | nil => exact settles_end false
  | cons k ks ih =>
    have hpanel := settles_panel (s := s) (hc.index k List.mem_cons_self) hw
    cases ks with
    | nil =>
      rw [stackBody_singleton, List.map_append, Slide.stackMarks, List.append_assoc]
      exact hpanel.append (settles_end _)
    | cons k' ks =>
      rw [stackBody_cons_cons, List.map_append, Slide.stackMarks]
      exact hpanel.append (settles_break hc hw (ih hc.tail))

/-- Which lines of a stack stay. -/
theorem settles_stack {plots : List Nat} (hc : IsColumn plots) (hw : IsWidth width) (a : Bool) :
    Settles a ((stack width plots breakAfter).map (Row.fill s))
      (true :: s.stackMarks breakAfter plots) true := by
  have hopen : Settles a [(opening "center" "").fill s] [true] false := by
    rw [fill_opening_center]
    exact Settles.of_kept rfl (by decide) a
  rw [stack_eq_cons]
  exact hopen.append (settles_stackBody hc hw)

end Builtin

end PlotDeck

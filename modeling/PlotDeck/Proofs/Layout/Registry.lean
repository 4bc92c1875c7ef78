import PlotDeck.Layout.Basic

/-!
# Resolving counts of plots

A registry **has room** for a number of plots when it holds a layout with at least that capacity.
Then, and only then, it resolves the number, and to a layout that has room itself
(`Registry.exists_resolve_iff`, `Registry.le_capacity_of_resolve`).
-/

namespace PlotDeck.Registry

variable {r : Registry} {n : Nat}

/-! ### Keys and layouts -/

/-- The layouts of a registry tell its entries. -/
theorem entries_eq (r : Registry) : r.entries = r.layouts.map fun l => (l.capacity, l) := by
  rw [layouts, List.map_map]
  refine ((List.map_congr_left fun e he => ?_).trans (List.map_id _)).symm
  rw [Function.comp_apply, ← r.keyed e he, id]

theorem capacities_eq (r : Registry) : r.capacities = r.layouts.map Layout.capacity := by
  rw [capacities, entries_eq, List.map_map]
  rfl

/-- The layout of a capacity is found by its key. -/
theorem get?_eq_find? (r : Registry) (c : Nat) :
    r.get? c = r.layouts.find? (·.capacity == c) := by
  rw [get?, entries_eq]
  induction r.layouts with
  | nil => rfl
  | cons l ls ih =>
    rw [List.map_cons, List.lookup_cons, List.find?_cons, ih, Bool.beq_comm]

/-- A count is resolved to the first layout with room for it. -/
theorem resolve_eq_ok_iff_find? {l : Layout} :
    r.resolve n = .ok l ↔ r.layouts.find? (n ≤ ·.capacity) = some l := by
  have hfind : r.entries.find? (n ≤ ·.1)
      = (r.layouts.find? (n ≤ ·.capacity)).map fun l => (l.capacity, l) := by
    rw [entries_eq, List.find?_map]
    rfl
  rw [resolve, hfind]
  cases r.layouts.find? (n ≤ ·.capacity) <;> simp

/-! ### Room -/

/-- Some registered layout has room for this many plots. -/
def HasRoom (r : Registry) (n : Nat) : Prop := ∃ c ∈ r.capacities, n ≤ c

theorem hasRoom_iff : r.HasRoom n ↔ ∃ l ∈ r.layouts, n ≤ l.capacity := by
  rw [HasRoom, capacities_eq]
  constructor
  · rintro ⟨c, hc, hn⟩
    obtain ⟨l, hl, rfl⟩ := List.mem_map.1 hc
    exact ⟨l, hl, hn⟩
  · rintro ⟨l, hl, hn⟩
    exact ⟨l.capacity, List.mem_map_of_mem hl, hn⟩

/-- A count is resolved to a layout that has room for it. -/
theorem le_capacity_of_resolve {l : Layout} (h : r.resolve n = .ok l) : n ≤ l.capacity := by
  simpa using List.find?_some (resolve_eq_ok_iff_find?.1 h)

/-- A registry resolves every count that one of its layouts has room for. -/
theorem exists_resolve {m : Layout} (hm : m ∈ r.layouts) (hn : n ≤ m.capacity) :
    ∃ l, r.resolve n = .ok l ∧ l ∈ r.layouts ∧ n ≤ l.capacity := by
  cases hfind : r.layouts.find? (n ≤ ·.capacity) with
  | none => exact absurd hn (by simpa using List.find?_eq_none.1 hfind m hm)
  | some l =>
    have hl := resolve_eq_ok_iff_find?.2 hfind
    exact ⟨l, hl, List.mem_of_find?_eq_some hfind, le_capacity_of_resolve hl⟩

theorem exists_resolve_iff : (∃ l, r.resolve n = .ok l) ↔ r.HasRoom n := by
  rw [hasRoom_iff]
  constructor
  · rintro ⟨l, hl⟩
    have hmem := List.mem_of_find?_eq_some (resolve_eq_ok_iff_find?.1 hl)
    exact ⟨l, hmem, le_capacity_of_resolve hl⟩
  · rintro ⟨m, hm, hn⟩
    obtain ⟨l, hl, -⟩ := exists_resolve hm hn
    exact ⟨l, hl⟩

/-- A count without room is refused, and the error names the largest capacity. -/
theorem resolve_of_not_hasRoom (h : ¬r.HasRoom n) :
    r.resolve n = .error (.unsupported n r.maxCapacity) := by
  have hfind : r.entries.find? (n ≤ ·.1) = none := by
    rw [List.find?_eq_none]
    intro e he hn
    exact h ⟨e.1, List.mem_map_of_mem he, by simpa using hn⟩
  rw [resolve, hfind]

end PlotDeck.Registry

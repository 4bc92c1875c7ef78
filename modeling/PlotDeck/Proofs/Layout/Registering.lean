import Mathlib.Data.List.Nodup
import PlotDeck.Proofs.Layout.Registry

/-!
# Runs of registering

A run offers layouts to a registry one after the other (`Registry.offerAll`). One step adds the
offered layout under its own capacity if that is free, and changes nothing else
(`Registry.get?_offer`). So at every point of a run the keys are the capacities of the layouts that
stand under them, the layout of a capacity is the first one that was offered with it, and a registry
depends on the layouts that it took, not on their order (`Registry.answers_offerAll`).
-/

namespace PlotDeck.Registry

variable {r r' : Registry} {l m : Layout} {ls : List Layout} {c n : Nat} {e : LayoutError}

/-- The layouts of a run that are registered, in the order in which they are offered. -/
def accepted (r : Registry) : List Layout → List Layout
  | [] => []
  | l :: ls =>
    match (r.offer l).1 with
    | .ok () => l :: (r.offer l).2.accepted ls
    | .error _ => (r.offer l).2.accepted ls

/-! ### What a registry holds -/

theorem pairwise_capacities (r : Registry) : r.capacities.Pairwise (· < ·) :=
  List.pairwise_map.2 r.ascending

theorem pairwise_layouts (r : Registry) : r.layouts.Pairwise (·.capacity < ·.capacity) :=
  List.pairwise_map.1 (r.capacities_eq ▸ r.pairwise_capacities)

theorem nodup_map_capacity (r : Registry) : (r.layouts.map Layout.capacity).Nodup :=
  r.capacities_eq ▸ r.pairwise_capacities.nodup

/-- A registry holds at most one layout of a capacity. -/
theorem eq_of_capacity_eq (hl : l ∈ r.layouts) (hm : m ∈ r.layouts)
    (h : l.capacity = m.capacity) : l = m :=
  List.inj_on_of_nodup_map r.nodup_map_capacity hl hm h

theorem get?_eq_some_iff : r.get? c = some l ↔ l ∈ r.layouts ∧ l.capacity = c := by
  rw [get?_eq_find?]
  constructor
  · intro h
    exact ⟨List.mem_of_find?_eq_some h, by simpa using List.find?_some h⟩
  · rintro ⟨hl, rfl⟩
    cases hfind : r.layouts.find? (·.capacity == l.capacity) with
    | none => exact absurd (List.find?_eq_none.1 hfind l hl) (by simp)
    | some m =>
      have hm : m.capacity = l.capacity := by simpa using List.find?_some hfind
      rw [eq_of_capacity_eq (List.mem_of_find?_eq_some hfind) hl hm]

theorem get?_eq_none_iff : r.get? c = none ↔ c ∉ r.capacities := by
  rw [get?_eq_find?, List.find?_eq_none, capacities_eq, List.mem_map]
  simp

theorem mem_capacities_iff : c ∈ r.capacities ↔ ∃ l, r.get? c = some l := by
  rw [← not_iff_not, ← get?_eq_none_iff, ← Option.not_isSome_iff_eq_none, Option.isSome_iff_exists]

/-- A registry is told by which layouts it holds. -/
theorem eq_of_mem_layouts_iff (h : ∀ l, l ∈ r.layouts ↔ l ∈ r'.layouts) : r = r' := by
  have hperm : r.layouts.Perm r'.layouts := by
    refine (List.perm_ext_iff_of_nodup ?_ ?_).2 h
    · exact r.nodup_map_capacity.of_map _
    · exact r'.nodup_map_capacity.of_map _
  have hlayouts : r.layouts = r'.layouts :=
    hperm.eq_of_pairwise (fun _ _ _ _ hlt hgt => absurd hlt (Nat.lt_asymm hgt)) r.pairwise_layouts
      r'.pairwise_layouts
  have hentries : r.entries = r'.entries := by rw [entries_eq, hlayouts, ← entries_eq]
  cases r
  cases r'
  obtain rfl := hentries
  rfl

/-! ### Queries -/

/-- The largest capacity is that of the last layout. -/
theorem maxCapacity_cases (r : Registry) :
    (r.capacities = [] ∧ r.maxCapacity = 0) ∨
      (r.maxCapacity ∈ r.capacities ∧ ∀ c ∈ r.capacities, c ≤ r.maxCapacity) := by
  have hmax : r.maxCapacity = r.capacities.getLast?.getD 0 := by
    rw [maxCapacity, capacities, List.getLast?_map]
  rcases List.eq_nil_or_concat r.capacities with hnil | ⟨before, last, hlast⟩
  · exact .inl ⟨hnil, by rw [hmax, hnil]; rfl⟩
  · rw [List.concat_eq_append] at hlast
    have hbefore := r.pairwise_capacities
    rw [hlast, List.pairwise_append] at hbefore
    have hvalue : r.maxCapacity = last := by rw [hmax, hlast]; simp
    rw [hvalue, hlast]
    refine .inr ⟨by simp, fun c hc => ?_⟩
    rcases List.mem_append.1 hc with hc | hc
    · exact Nat.le_of_lt (hbefore.2.2 c hc last (by simp))
    · exact Nat.le_of_eq (List.mem_singleton.1 hc)

/-- The layout that a count is resolved to is the smallest that has room. -/
theorem capacity_le_of_resolve (h : r.resolve n = .ok l) (hm : m ∈ r.layouts)
    (hn : n ≤ m.capacity) : l.capacity ≤ m.capacity := by
  obtain ⟨-, before, after, hlayouts, hbefore⟩ :=
    List.find?_eq_some_iff_append.1 (resolve_eq_ok_iff_find?.1 h)
  have hascending := r.pairwise_layouts
  rw [hlayouts, List.pairwise_append, List.pairwise_cons] at hascending
  rw [hlayouts, List.mem_append, List.mem_cons] at hm
  rcases hm with hm | rfl | hm
  · exact absurd hn (by simpa using hbefore m hm)
  · exact Nat.le_refl _
  · exact Nat.le_of_lt (hascending.2.1.1 m hm)

theorem resolve_eq_ok_iff :
    r.resolve n = .ok l ↔
      r.get? l.capacity = some l ∧ n ≤ l.capacity ∧ ∀ c ∈ r.capacities, n ≤ c → l.capacity ≤ c := by
  rw [get?_eq_some_iff]
  constructor
  · intro h
    refine ⟨⟨List.mem_of_find?_eq_some (resolve_eq_ok_iff_find?.1 h), rfl⟩,
      le_capacity_of_resolve h, fun c hc hn => ?_⟩
    rw [capacities_eq] at hc
    obtain ⟨m, hm, rfl⟩ := List.mem_map.1 hc
    exact capacity_le_of_resolve h hm hn
  · rintro ⟨⟨hl, -⟩, hn, hleast⟩
    obtain ⟨m, hm, hmem, hroom⟩ := exists_resolve hl hn
    have hkey : m.capacity ∈ r.capacities := r.capacities_eq ▸ List.mem_map_of_mem hmem
    have hle : l.capacity ≤ m.capacity := hleast _ hkey hroom
    have hge : m.capacity ≤ l.capacity := capacity_le_of_resolve hm hl hn
    rw [hm, eq_of_capacity_eq hmem hl (Nat.le_antisymm hge hle)]

theorem resolve_eq_error_iff :
    r.resolve n = .error e ↔
      (∀ c ∈ r.capacities, c < n) ∧ e = .unsupported n r.maxCapacity := by
  have hroom : (∀ c ∈ r.capacities, c < n) ↔ ¬r.HasRoom n := by simp [HasRoom]
  rw [hroom]
  by_cases h : r.HasRoom n
  · obtain ⟨l, hl⟩ := exists_resolve_iff.2 h
    simp [hl, h]
  · rw [resolve_of_not_hasRoom h, Except.error.injEq, eq_comm]
    exact (and_iff_right h).symm

/-! ### One step -/

/-- A layout is refused if its capacity is taken; else it is added to the registry. -/
theorem offer_cases (r : Registry) (l : Layout) :
    (l.capacity ∈ r.capacities ∧
      r.offer l = (.error (.duplicateCapacity l.capacity l.name), r)) ∨
    (l.capacity ∉ r.capacities ∧
      ∃ r', r.offer l = (.ok (), r') ∧ ∀ m, m ∈ r'.layouts ↔ m = l ∨ m ∈ r.layouts) := by
  have htaken : (∃ e ∈ r.entries, e.1 = l.capacity) ↔ l.capacity ∈ r.capacities :=
    List.mem_map.symm
  rw [offer, register]
  split
  · next hok =>
    split at hok
    · cases hok
    · next hfree =>
      obtain rfl := Except.ok.inj hok
      refine .inr ⟨fun h => hfree (htaken.2 h), _, rfl, fun m => ?_⟩
      simp only [layouts, List.mem_map, mem_insertAscending]
      constructor
      · rintro ⟨e, rfl | he, rfl⟩
        · exact .inl rfl
        · exact .inr ⟨e, he, rfl⟩
      · rintro (rfl | ⟨e, he, rfl⟩)
        · exact ⟨_, .inl rfl, rfl⟩
        · exact ⟨e, .inr he, rfl⟩
  · next herror =>
    split at herror
    · next h =>
      obtain rfl := Except.error.inj herror
      exact .inl ⟨htaken.1 h, rfl⟩
    · cases herror

theorem offer_fst_eq_error_iff :
    (r.offer l).1 = .error e ↔
      l.capacity ∈ r.capacities ∧ e = .duplicateCapacity l.capacity l.name := by
  obtain ⟨htaken, hoffer⟩ | ⟨hfree, r', hoffer, -⟩ := offer_cases r l
  · simp [hoffer, htaken, eq_comm]
  · simp [hoffer, hfree]

/-- A layout that is refused changes nothing. -/
theorem offer_snd_of_mem (h : l.capacity ∈ r.capacities) : (r.offer l).2 = r := by
  obtain ⟨-, hoffer⟩ | ⟨hfree, -⟩ := offer_cases r l
  · rw [hoffer]
  · exact absurd h hfree

/-- The offered layout stands under its own capacity if nothing stood there, and the layouts of all
capacities that were taken stay. -/
theorem get?_offer (r : Registry) (l : Layout) (c : Nat) :
    (r.offer l).2.get? c = (r.get? c).or (if l.capacity = c then some l else none) := by
  obtain ⟨htaken, hoffer⟩ | ⟨hfree, r', hoffer, hlayouts⟩ := offer_cases r l
  · obtain ⟨m, hm⟩ := mem_capacities_iff.1 htaken
    rw [hoffer]
    split
    · next hc => rw [← hc, hm, Option.some_or]
    · rw [Option.or_none]
  · rw [hoffer]
    refine Option.ext fun m => ?_
    rw [get?_eq_some_iff, hlayouts, Option.or_eq_some_iff]
    constructor
    · rintro ⟨rfl | hm, rfl⟩
      · exact .inr ⟨get?_eq_none_iff.2 hfree, if_pos rfl⟩
      · exact .inl (get?_eq_some_iff.2 ⟨hm, rfl⟩)
    · rintro (hm | ⟨-, hm⟩)
      · obtain ⟨hm, hc⟩ := get?_eq_some_iff.1 hm
        exact ⟨.inr hm, hc⟩
      · split at hm
        · next hc =>
          obtain rfl := Option.some.inj hm
          exact ⟨.inl rfl, hc⟩
        · cases hm

/-! ### Whole runs -/

/-- The layout of a capacity is the first one with it, of those that the registry held and then of
those that were offered. -/
theorem get?_offerAll (start : Registry) (ls : List Layout) (c : Nat) :
    (start.offerAll ls).get? c = (start.layouts ++ ls).find? (·.capacity == c) := by
  rw [List.find?_append, ← get?_eq_find?]
  induction ls generalizing start with
  | nil => rw [offerAll, List.find?_nil, Option.or_none]
  | cons l ls ih =>
    rw [offerAll, ih, get?_offer, Option.or_assoc, List.find?_cons]
    congr 1
    by_cases hc : l.capacity = c
    · simp [hc]
    · rw [if_neg hc, Option.none_or, beq_false_of_ne hc]

/-- After a run a registry holds what it held and what it took. -/
theorem mem_layouts_offerAll (start : Registry) (ls : List Layout) :
    m ∈ (start.offerAll ls).layouts ↔ m ∈ start.layouts ++ start.accepted ls := by
  induction ls generalizing start with
  | nil => simp [offerAll, accepted]
  | cons l ls ih =>
    rw [offerAll, ih, accepted]
    obtain ⟨-, hoffer⟩ | ⟨-, r', hoffer, hlayouts⟩ := offer_cases start l
    · simp only [hoffer]
    · simp only [hoffer, hlayouts, List.mem_append, List.mem_cons]
      rw [or_assoc]
      exact or_left_comm

/-- What a registry answers that was given these layouts in this order. -/
structure Answers (r : Registry) (given : List Layout) : Prop where
  /-- The layout of a capacity is the first one that was given with it. -/
  get?_eq : ∀ c, r.get? c = given.find? (·.capacity == c)
  /-- It has this capacity. -/
  capacity_of_get? : ∀ c l, r.get? c = some l → l.capacity = c
  /-- The keys are the capacities of the layouts. -/
  keyed : ∀ e ∈ r.entries, e.1 = e.2.capacity
  /-- The capacities are strictly ascending. -/
  ascending : r.capacities.Pairwise (· < ·)
  /-- They are those of all layouts that were given. -/
  mem_capacities : ∀ c, c ∈ r.capacities ↔ ∃ l ∈ given, l.capacity = c
  /-- There are as many of them as the registry has layouts. -/
  length_capacities : r.capacities.length = r.size
  /-- The largest capacity is one of them, or zero if there are none. -/
  maxCapacity : (r.capacities = [] ∧ r.maxCapacity = 0) ∨
    (r.maxCapacity ∈ r.capacities ∧ ∀ c ∈ r.capacities, c ≤ r.maxCapacity)
  /-- A layout is refused exactly if its capacity is taken, and the error names it. -/
  refused_iff : ∀ l e, (r.offer l).1 = .error e ↔
    l.capacity ∈ r.capacities ∧ e = .duplicateCapacity l.capacity l.name
  /-- Then the registry stays as it is. -/
  offer_of_refused : ∀ l e, (r.offer l).1 = .error e → (r.offer l).2 = r
  /-- A count is resolved to the layout of the least capacity that is not below it. -/
  resolve_eq_ok_iff : ∀ n l, r.resolve n = .ok l ↔
    r.get? l.capacity = some l ∧ n ≤ l.capacity ∧ ∀ c ∈ r.capacities, n ≤ c → l.capacity ≤ c
  /-- A count is refused exactly if all capacities are below it. -/
  resolve_eq_error_iff : ∀ n e, r.resolve n = .error e ↔
    (∀ c ∈ r.capacities, c < n) ∧ e = .unsupported n r.maxCapacity

/-- **Registering**: whatever layouts are offered to a registry, it answers every query by the first
layout of each capacity that it was given; and two runs end with the same registry if they started
from and took the same layouts, in whichever order. -/
theorem answers_offerAll (start : Registry) (ls : List Layout) :
    (start.offerAll ls).Answers (start.layouts ++ ls) ∧
    ∀ (start' : Registry) (ls' : List Layout),
      (∀ l, l ∈ start.layouts ++ start.accepted ls ↔ l ∈ start'.layouts ++ start'.accepted ls') →
        start.offerAll ls = start'.offerAll ls' := by
  have hfirst := get?_offerAll start ls
  refine ⟨?_, fun start' ls' h => ?_⟩
  · exact {
      get?_eq := hfirst
      capacity_of_get? := fun c l h => (get?_eq_some_iff.1 h).2
      keyed := (start.offerAll ls).keyed
      ascending := pairwise_capacities _
      mem_capacities := fun c => by
        rw [mem_capacities_iff, hfirst, ← Option.isSome_iff_exists, List.find?_isSome]
        simp only [beq_iff_eq]
      length_capacities := List.length_map _
      maxCapacity := maxCapacity_cases _
      refused_iff := fun l e => offer_fst_eq_error_iff
      offer_of_refused := fun l e h => offer_snd_of_mem (offer_fst_eq_error_iff.1 h).1
      resolve_eq_ok_iff := fun n l => resolve_eq_ok_iff
      resolve_eq_error_iff := fun n e => resolve_eq_error_iff }
  · refine eq_of_mem_layouts_iff fun l => ?_
    rw [mem_layouts_offerAll, mem_layouts_offerAll, h]

/-- Two orders of offering a pair and a grid, with a second pair refused in one of them. -/
theorem answers_offerAll_two_orders :
    let pair : Layout := ⟨"pair", 2, "@PLOT1 @PLOT2"⟩
    let grid : Layout := ⟨"grid", 5, ""⟩
    let other : Layout := ⟨"other", 2, ""⟩
    (∀ l, l ∈ empty.layouts ++ empty.accepted [pair, grid, other] ↔
      l ∈ empty.layouts ++ empty.accepted [grid, pair]) ∧
    empty.offerAll [pair, grid, other] = empty.offerAll [grid, pair] ∧
    (empty.offerAll [pair, grid, other]).get? 2 = some pair ∧
    (empty.offerAll [pair, grid, other]).resolve 3 = .ok grid := by
  intro pair grid other
  have htaken : ∀ l, l ∈ empty.layouts ++ empty.accepted [pair, grid, other] ↔
      l ∈ empty.layouts ++ empty.accepted [grid, pair] := by
    have hleft : empty.accepted [pair, grid, other] = [pair, grid] := by decide +kernel
    have hright : empty.accepted [grid, pair] = [grid, pair] := by decide +kernel
    intro l
    rw [hleft, hright]
    simp only [List.mem_append, List.mem_cons, List.not_mem_nil, or_false]
    exact or_congr_right or_comm
  obtain ⟨hanswers, hsame⟩ := answers_offerAll empty [pair, grid, other]
  refine ⟨htaken, hsame empty [grid, pair] htaken, ?_, ?_⟩
  · rw [hanswers.get?_eq]
    decide +kernel
  · refine (hanswers.resolve_eq_ok_iff 3 grid).2 ⟨?_, by decide, ?_⟩
    · rw [hanswers.get?_eq]
      decide +kernel
    · decide +kernel

end PlotDeck.Registry

import Mathlib.Order.Defs.LinearOrder
import PlotDeck.Compare.NaturalOrder

/-!
# The natural order is a total order

Runs are compared by two rules, and the two fit together: two numbers lie on the same side of
everything that is no number (`compareText_eq_of_isNumber`), so runs are preordered
(`transCmp_compareRun`), and so are sequences of runs. Names whose runs all compare equal are told
apart as texts, so the natural order of names is total and takes no two names for one
(`transCmp_natural`, `lawfulEqCmp_natural`), and the sorted form of a list does not depend on the
order in which its names were given (`natural_totalOrder`).
-/

namespace PlotDeck.Compare

open Std (LawfulEqCmp OrientedCmp TransCmp)

/-! ### Texts -/

/-- Texts are compared lexicographically by the code points of their characters. -/
theorem compareText_eq_compareLex : compareText = List.compareLex (compareOn Char.toNat) := by
  funext s t
  induction s generalizing t with
  | nil => cases t <;> rfl
  | cons c s ih =>
    cases t with
    | nil => rfl
    | cons d t =>
      rw [compareText, ih, List.compareLex_cons_cons]
      rfl

instance lawfulEqCmp_compareOn_toNat : LawfulEqCmp (compareOn Char.toNat) where
  compare_self := Nat.compare_eq_eq.2 rfl
  eq_of_compare h := Char.toNat_inj.1 (Nat.compare_eq_eq.1 h)

instance transCmp_compareText : TransCmp compareText :=
  compareText_eq_compareLex ▸ inferInstance

instance lawfulEqCmp_compareText : LawfulEqCmp compareText :=
  compareText_eq_compareLex ▸ inferInstance

/-! ### Runs -/

/-- Numbers are compared by their length first and then as texts, without leading zeros. -/
theorem compareNumbers_eq_compareLex :
    compareNumbers = compareLex (compareOn fun t => (significant t).length)
      (Ordering.byKey significant compareText) := rfl

instance transCmp_compareNumbers : TransCmp compareNumbers :=
  compareNumbers_eq_compareLex ▸ inferInstance

theorem isNumber_iff {t : List Char} :
    isNumber t = true ↔ ∃ c r, t = c :: r ∧ c.isDigit = true := by
  cases t <;> simp [isNumber]

/-- A digit lies on the side of any other character that all digits lie on. -/
theorem compare_toNat_of_isDigit {c e : Char} (hc : c.isDigit = true) (he : e.isDigit = false) :
    compare c.toNat e.toNat = if e.toNat < '0'.toNat then .gt else .lt := by
  have hlow := Char.isDigit_iff_toNat.1 hc
  have hout : ¬('0'.toNat ≤ e.toNat ∧ e.toNat ≤ '9'.toNat) := by
    rw [← Char.isDigit_iff_toNat, he]
    decide
  split
  · exact Nat.compare_eq_gt.2 (by omega)
  · exact Nat.compare_eq_lt.2 (by omega)

/-- All numbers compare alike with a run that is no number. -/
theorem compareText_eq_of_isNumber {s t u : List Char} (hs : isNumber s = true)
    (ht : isNumber t = true) (hu : isNumber u = false) : compareText s u = compareText t u := by
  obtain ⟨c, s, rfl, hc⟩ := isNumber_iff.1 hs
  obtain ⟨d, t, rfl, hd⟩ := isNumber_iff.1 ht
  cases u with
  | nil => rfl
  | cons e u =>
    have he : e.isDigit = false := hu
    rw [compareText, compareText, compare_toNat_of_isDigit hc he, compare_toNat_of_isDigit hd he]
    -- the first characters decide, so what follows them plays no part
    split <;> rfl

theorem compareRun_of_isNumber {s t : List Char} (hs : isNumber s = true)
    (ht : isNumber t = true) : compareRun s t = compareNumbers s t := by
  simp [compareRun, hs, ht]

theorem compareRun_of_not_isNumber {s t : List Char} (h : isNumber s = false ∨ isNumber t = false) :
    compareRun s t = compareText s t := by
  rcases h with h | h <;> simp [compareRun, h]

instance orientedCmp_compareRun : OrientedCmp compareRun where
  eq_swap := by
    intro s t
    rw [compareRun, compareRun, Bool.and_comm]
    split <;> exact OrientedCmp.eq_swap

/-- Runs are preordered: the two rules of comparing them fit together. -/
instance transCmp_compareRun : TransCmp compareRun where
  isLE_trans := by
    intro s t u hst htu
    match hs : isNumber s, ht : isNumber t, hu : isNumber u with
    | true, true, true =>
      rw [compareRun_of_isNumber hs ht] at hst
      rw [compareRun_of_isNumber ht hu] at htu
      rw [compareRun_of_isNumber hs hu]
      exact TransCmp.isLE_trans hst htu
    | true, true, false =>
      -- `s` lies on the same side of `u` as `t`
      rw [compareRun_of_not_isNumber (.inr hu)] at htu ⊢
      rw [compareText_eq_of_isNumber hs ht hu]
      exact htu
    | false, true, true =>
      -- `u` lies on the same side of `s` as `t`
      have hsu : compareText s u = (compareText u s).swap := OrientedCmp.eq_swap
      have hts : compareText s t = (compareText t s).swap := OrientedCmp.eq_swap
      rw [compareRun_of_not_isNumber (.inl hs)] at hst ⊢
      rw [hsu, compareText_eq_of_isNumber hu ht hs, ← hts]
      exact hst
    | true, false, true =>
      -- `t` would have numbers on both sides
      rw [compareRun_of_not_isNumber (.inr ht), compareText_eq_of_isNumber hs hu ht] at hst
      rw [compareRun_of_not_isNumber (.inl ht)] at htu
      have heq : t = u := LawfulEqCmp.eq_of_compare (OrientedCmp.isLE_antisymm htu hst)
      rw [heq, hu] at ht
      cases ht
    | true, false, false | false, true, false | false, false, _ =>
      rw [compareRun_of_not_isNumber (by simp [*])] at hst htu ⊢
      exact TransCmp.isLE_trans hst htu

/-- Sequences of runs are compared lexicographically. -/
theorem compareRuns_eq_compareLex : compareRuns = List.compareLex compareRun := by
  funext ss ts
  induction ss generalizing ts with
  | nil => cases ts <;> rfl
  | cons s ss ih =>
    cases ts with
    | nil => rfl
    | cons t ts => rw [compareRuns, ih, List.compareLex_cons_cons]

instance transCmp_compareRuns : TransCmp compareRuns :=
  compareRuns_eq_compareLex ▸ inferInstance

/-! ### Names -/

/-- Names are compared by their runs first and then as texts. -/
theorem natural_eq_compareLex :
    natural = compareLex (Ordering.byKey (runs ∘ String.toList) compareRuns)
      (Ordering.byKey String.toList compareText) := rfl

instance transCmp_natural : TransCmp natural := natural_eq_compareLex ▸ inferInstance

instance lawfulEqCmp_natural : LawfulEqCmp natural where
  compare_self := Std.ReflCmp.compare_self
  eq_of_compare := by
    intro a b h
    obtain ⟨-, htext⟩ := Ordering.then_eq_eq.1 h
    exact String.toList_inj.1 (LawfulEqCmp.eq_of_compare htext)

/-! ### Sorting -/

/-- Sorted names stand in natural order. -/
theorem pairwise_sortNatural (names : List String) :
    (sortNatural names).Pairwise fun a b => (natural a b).isLE = true := by
  have hle : ∀ a b, (natural a b != .gt) = (natural a b).isLE := by
    intro a b
    cases natural a b <;> rfl
  have htotal : ∀ a b, ((natural a b).isLE || (natural b a).isLE) = true := by
    intro a b
    have hswap : natural b a = (natural a b).swap := OrientedCmp.eq_swap
    rw [hswap]
    cases natural a b <;> rfl
  unfold sortNatural
  simp only [hle]
  exact List.pairwise_mergeSort (fun _ _ _ => TransCmp.isLE_trans) htotal names

theorem sortNatural_perm (names : List String) : (sortNatural names).Perm names :=
  List.mergeSort_perm names _

/-- The sorted form of names does not depend on the order in which they are given. -/
theorem sortNatural_eq_of_perm {names names' : List String} (h : names.Perm names') :
    sortNatural names = sortNatural names' := by
  have hperm : (sortNatural names).Perm (sortNatural names') :=
    (sortNatural_perm names).trans (h.trans (sortNatural_perm names').symm)
  refine hperm.eq_of_pairwise (fun a b _ _ hab hba => ?_) (pairwise_sortNatural names)
    (pairwise_sortNatural names')
  exact LawfulEqCmp.eq_of_compare (OrientedCmp.isLE_antisymm hab hba)

/-- **Total order**: the natural order takes no two names for one, it is reversed when the names
change places, and it is transitive. So sorting keeps the names and puts them in this order, and it
gives the same list for every order in which the names are given. -/
theorem natural_totalOrder :
    (∀ a b, natural a b = .eq ↔ a = b) ∧
    (∀ a b, natural b a = (natural a b).swap) ∧
    (∀ a b c, natural a b = .lt → natural b c = .lt → natural a c = .lt) ∧
    (∀ names, (sortNatural names).Perm names ∧
      (sortNatural names).Pairwise fun a b => (natural a b).isLE = true) ∧
    (∀ names names', names.Perm names' → sortNatural names = sortNatural names') :=
  ⟨fun _ _ => LawfulEqCmp.compare_eq_iff_eq, fun _ _ => OrientedCmp.eq_swap,
    fun _ _ _ => TransCmp.lt_trans,
    fun names => ⟨sortNatural_perm names, pairwise_sortNatural names⟩,
    fun _ _ => sortNatural_eq_of_perm⟩

/-- Numbers of one value in different spellings, next to a larger number. -/
theorem natural_totalOrder_of_leading_zeros :
    natural "a007" "a7" = .lt ∧ natural "a7" "a10" = .lt ∧ natural "a007" "a10" = .lt ∧
    ["a10", "a7", "a007"].Perm ["a007", "a10", "a7"] ∧
    sortNatural ["a10", "a7", "a007"] = sortNatural ["a007", "a10", "a7"] := by
  obtain ⟨-, -, htrans, -, hsort⟩ := natural_totalOrder
  have hperm : ["a10", "a7", "a007"].Perm ["a007", "a10", "a7"] := by decide
  exact ⟨by decide, by decide, htrans _ "a7" _ (by decide) (by decide), hperm, hsort _ _ hperm⟩

end PlotDeck.Compare

import Mathlib.Algebra.Group.Nat.Defs
import PlotDeck.Proofs.Compare.TotalOrder
import PlotDeck.Proofs.Text.Line

/-!
# Numbers in names

A number of any length is compared by its **value**: without leading zeros, the longer of two
numbers is the larger one, and numbers of one length compare like their digits
(`compareNumbers_eq_compare_value`). A name is cut into runs where digits and other characters meet
(`runs_append`), so two names that agree up to a number are cut in step, and the values of the
numbers decide before anything behind them does (`natural_append_numeral`).
-/

namespace PlotDeck.Compare

variable {s t : List Char}

/-! ### Values -/

/-- The number that decimal digits write. -/
def value (t : List Char) : Nat := Nat.ofDigitChars 10 t 0

@[simp] theorem value_nil : value [] = 0 := rfl

theorem value_cons (c : Char) (t : List Char) :
    value (c :: t) = 10 ^ t.length * (c.toNat - '0'.toNat) + value t := by
  rw [value, Nat.ofDigitChars_cons, Nat.ofDigitChars_eq_ofDigitChars_zero, Nat.mul_zero,
    Nat.zero_add, value]

theorem value_lt_pow (ht : ∀ c ∈ t, c.isDigit = true) : value t < 10 ^ t.length := by
  induction t with
  | nil => simp
  | cons c t ih =>
    obtain ⟨hc, ht⟩ := List.forall_mem_cons.1 ht
    have hdigit := (Char.isDigit_iff_toNat.1 hc).2
    have hnine : '9'.toNat = '0'.toNat + 9 := rfl
    have hrest := ih ht
    have hfirst : 10 ^ t.length * (c.toNat - '0'.toNat) ≤ 10 ^ t.length * 9 :=
      Nat.mul_le_mul_left _ (by omega)
    rw [value_cons, List.length_cons, Nat.pow_succ]
    omega

/-- A number without leading zeros is at least as large as its length allows. -/
theorem pow_le_value {c : Char} (hc : c.isDigit = true) (hzero : c ≠ '0') (t : List Char) :
    10 ^ t.length ≤ value (c :: t) := by
  have hdigit := (Char.isDigit_iff_toNat.1 hc).1
  have hne : c.toNat ≠ '0'.toNat := fun h => hzero (Char.toNat_inj.1 h)
  have hfirst : 10 ^ t.length * 1 ≤ 10 ^ t.length * (c.toNat - '0'.toNat) :=
    Nat.mul_le_mul_left _ (by omega)
  rw [value_cons]
  omega

/-- Leading zeros do not count. -/
theorem value_significant (t : List Char) : value (significant t) = value t := by
  induction t with
  | nil => rfl
  | cons c t ih =>
    rw [significant, List.dropWhile_cons]
    split
    · next hc =>
      obtain rfl : c = '0' := by simpa using hc
      rw [← significant, ih, value_cons, Nat.sub_self, Nat.mul_zero, Nat.zero_add]
    · rfl

/-! ### Comparing values -/

theorem compare_add_left (n a b : Nat) : compare (n + a) (n + b) = compare a b := by
  simp [Nat.compare_eq_ite_lt]

/-- Of two numbers in one base, the leading digits decide before the rest. -/
theorem compare_mul_add {n a b x y : Nat} (hx : x < n) (hy : y < n) :
    compare (n * a + x) (n * b + y) = (compare a b).then (compare x y) := by
  rcases Nat.lt_trichotomy a b with hlt | rfl | hgt
  · have hstep : n * (a + 1) ≤ n * b := Nat.mul_le_mul_left n hlt
    rw [Nat.mul_succ] at hstep
    rw [Nat.compare_eq_lt.2 hlt, Nat.compare_eq_lt.2 (by omega)]
    rfl
  · rw [Nat.compare_eq_eq.2 rfl, compare_add_left]
    rfl
  · have hstep : n * (b + 1) ≤ n * a := Nat.mul_le_mul_left n hgt
    rw [Nat.mul_succ] at hstep
    rw [Nat.compare_eq_gt.2 hgt, Nat.compare_eq_gt.2 (by omega)]
    rfl

/-- Numbers of one length compare like their digits. -/
theorem compareText_eq_compare_value (hs : ∀ c ∈ s, c.isDigit = true)
    (ht : ∀ c ∈ t, c.isDigit = true) (hlength : s.length = t.length) :
    compareText s t = compare (value s) (value t) := by
  induction s generalizing t with
  | nil =>
    obtain rfl := List.length_eq_zero_iff.1 hlength.symm
    rfl
  | cons c s ih =>
    cases t with
    | nil => cases hlength
    | cons d t =>
      obtain ⟨hc, hs⟩ := List.forall_mem_cons.1 hs
      obtain ⟨hd, ht⟩ := List.forall_mem_cons.1 ht
      have hlength : s.length = t.length := Nat.succ.inj hlength
      have hfirst : compare (c.toNat - '0'.toNat) (d.toNat - '0'.toNat)
          = compare c.toNat d.toNat := by
        rw [← compare_add_left '0'.toNat, Nat.add_sub_cancel' (Char.isDigit_iff_toNat.1 hc).1,
          Nat.add_sub_cancel' (Char.isDigit_iff_toNat.1 hd).1]
      have hslt := value_lt_pow hs
      have htlt := value_lt_pow ht
      rw [hlength] at hslt
      rw [value_cons, value_cons, hlength, compare_mul_add hslt htlt, hfirst, compareText,
        ih hs ht hlength]

theorem isDigit_of_mem_significant (ht : ∀ c ∈ t, c.isDigit = true) :
    ∀ c ∈ significant t, c.isDigit = true :=
  fun c hc => ht c ((List.dropWhile_suffix _).subset hc)

/-- Without leading zeros, the longer of two numbers is the larger one. -/
theorem value_lt_of_length_lt (hs : ∀ c ∈ s, c.isDigit = true) (ht : ∀ c ∈ t, c.isDigit = true)
    (hlength : (significant s).length < (significant t).length) : value s < value t := by
  rw [← value_significant s, ← value_significant t]
  have hupper := value_lt_pow (isDigit_of_mem_significant hs)
  have hdigits := isDigit_of_mem_significant ht
  have hhead := List.head?_dropWhile_not (· == '0') t
  rw [← significant] at hhead
  cases hsig : significant t with
  | nil => simp [hsig] at hlength
  | cons c r =>
    rw [hsig] at hhead hdigits hlength
    have hzero : c ≠ '0' := by simpa using hhead
    calc value (significant s) < 10 ^ (significant s).length := hupper
      _ ≤ 10 ^ r.length := Nat.pow_le_pow_right (by decide) (Nat.lt_succ_iff.1 hlength)
      _ ≤ value (c :: r) := pow_le_value (hdigits c List.mem_cons_self) hzero r

/-- Numbers are compared by value. -/
theorem compareNumbers_eq_compare_value (hs : ∀ c ∈ s, c.isDigit = true)
    (ht : ∀ c ∈ t, c.isDigit = true) : compareNumbers s t = compare (value s) (value t) := by
  rw [compareNumbers]
  rcases Nat.lt_trichotomy (significant s).length (significant t).length with hlt | heq | hgt
  · rw [Nat.compare_eq_lt.2 hlt, Nat.compare_eq_lt.2 (value_lt_of_length_lt hs ht hlt)]
    rfl
  · rw [Nat.compare_eq_eq.2 heq, compareText_eq_compare_value (isDigit_of_mem_significant hs)
      (isDigit_of_mem_significant ht) heq, value_significant, value_significant]
    rfl
  · rw [Nat.compare_eq_gt.2 hgt, Nat.compare_eq_gt.2 (value_lt_of_length_lt ht hs hgt)]
    rfl

/-! ### Cutting names into runs -/

theorem exists_runs_cons (c : Char) (r : List Char) :
    ∃ ds rest, runs (c :: r) = (c :: ds) :: rest := by
  rw [runs]
  split
  · split <;> exact ⟨_, _, rfl⟩
  · exact ⟨_, _, rfl⟩

theorem runs_cons_of_runs {d : Char} {ds r : List Char} {rest : List (List Char)}
    (h : runs r = (d :: ds) :: rest) (c : Char) :
    runs (c :: r) = if c.isDigit = d.isDigit then (c :: d :: ds) :: rest
      else [c] :: (d :: ds) :: rest := by
  rw [runs, h]

/-- A name is cut where digits and other characters meet. -/
theorem runs_append {p q : List Char}
    (h : ∀ c ∈ p.getLast?, ∀ e ∈ q.head?, c.isDigit ≠ e.isDigit) :
    runs (p ++ q) = runs p ++ runs q := by
  induction p with
  | nil => rfl
  | cons c p ih =>
    cases p with
    | nil =>
      cases q with
      | nil => rfl
      | cons e q =>
        obtain ⟨ds, rest, hq⟩ := exists_runs_cons e q
        have hne : c.isDigit ≠ e.isDigit := h c (by simp) e (by simp)
        rw [List.singleton_append, runs_cons_of_runs hq, if_neg hne, hq]
        rfl
    | cons d p =>
      have ih := ih fun x hx => h x (by simpa using hx)
      obtain ⟨ds, rest, hp⟩ := exists_runs_cons d p
      have hlong : runs (d :: p ++ q) = (d :: ds) :: (rest ++ runs q) := by rw [ih, hp]; rfl
      rw [List.cons_append, runs_cons_of_runs hlong, runs_cons_of_runs hp]
      split <;> rfl

/-- A text is a **numeral** when it consists of digits and is not empty. -/
structure IsNumeral (t : List Char) : Prop where
  /-- There is a digit. -/
  ne_nil : t ≠ []
  /-- There is nothing but digits. -/
  isDigit : ∀ c ∈ t, c.isDigit = true

namespace IsNumeral

/-- A numeral is one run. -/
theorem runs_eq (ht : IsNumeral t) : runs t = [t] := by
  obtain ⟨hne, ht⟩ := ht
  induction t with
  | nil => exact absurd rfl hne
  | cons c t ih =>
    obtain ⟨hc, ht⟩ := List.forall_mem_cons.1 ht
    cases t with
    | nil => rfl
    | cons d t =>
      have hd : d.isDigit = true := ht d List.mem_cons_self
      rw [runs_cons_of_runs (ih (List.cons_ne_nil d t) ht), if_pos (hc.trans hd.symm)]

theorem isNumber (ht : IsNumeral t) : isNumber t = true := by
  obtain ⟨c, r, rfl⟩ := List.exists_cons_of_ne_nil ht.ne_nil
  exact ht.isDigit c List.mem_cons_self

/-- A numeral between other characters is a run of its own. -/
theorem runs_append_append {p d s : List Char} (hp : ∀ c ∈ p.getLast?, c.isDigit = false)
    (hd : IsNumeral d) (hs : ∀ c ∈ s.head?, c.isDigit = false) :
    runs (p ++ d ++ s) = runs p ++ d :: runs s := by
  have hleft : ∀ c ∈ p.getLast?, ∀ e ∈ d.head?, c.isDigit ≠ e.isDigit := by
    intro c hc e he
    rw [hp c hc, hd.isDigit e (List.mem_of_head? he)]
    decide
  have hright : ∀ c ∈ (p ++ d).getLast?, ∀ e ∈ s.head?, c.isDigit ≠ e.isDigit := by
    intro c hc e he
    have hlast : (p ++ d).getLast? = d.getLast? := by
      rw [List.getLast?_append, List.getLast?_eq_some_getLast hd.ne_nil, Option.some_or]
    rw [hlast] at hc
    rw [hd.isDigit c (List.mem_of_getLast? hc), hs e he]
    decide
  rw [runs_append hright, runs_append hleft, hd.runs_eq, List.append_assoc, List.singleton_append]

end IsNumeral

/-- Runs that two names share at their start are passed over. -/
theorem compareRuns_append (ps qs rs : List (List Char)) :
    compareRuns (ps ++ qs) (ps ++ rs) = compareRuns qs rs := by
  induction ps with
  | nil => rfl
  | cons p ps ih =>
    have hself : compareRun p p = .eq := Std.ReflCmp.compare_self
    rw [List.cons_append, List.cons_append, compareRuns, ih, hself]
    rfl

/-- Names that agree up to a numeral compare by the values of their numerals first. -/
theorem compareRuns_numerals {p d e s t : List Char} (hp : ∀ c ∈ p.getLast?, c.isDigit = false)
    (hd : IsNumeral d) (he : IsNumeral e) (hs : ∀ c ∈ s.head?, c.isDigit = false)
    (ht : ∀ c ∈ t.head?, c.isDigit = false) :
    compareRuns (runs (p ++ d ++ s)) (runs (p ++ e ++ t))
      = (compare (value d) (value e)).then (compareRuns (runs s) (runs t)) := by
  rw [IsNumeral.runs_append_append hp hd hs, IsNumeral.runs_append_append hp he ht,
    compareRuns_append, compareRuns, compareRun_of_isNumber hd.isNumber he.isNumber,
    compareNumbers_eq_compare_value hd.isDigit he.isDigit]

/-- **Numbers by value**: of two names that agree up to a numeral, the one whose numeral has the
smaller value comes first. If the values are equal, the names compare like what stands behind the
numerals, as soon as the runs there differ. -/
theorem natural_append_numeral {p d e s t : String}
    (hp : ∀ c ∈ p.toList.getLast?, c.isDigit = false)
    (hd : IsNumeral d.toList) (he : IsNumeral e.toList)
    (hs : ∀ c ∈ s.toList.head?, c.isDigit = false)
    (ht : ∀ c ∈ t.toList.head?, c.isDigit = false) :
    (value d.toList < value e.toList → natural (p ++ d ++ s) (p ++ e ++ t) = .lt) ∧
    (value d.toList = value e.toList → compareRuns (runs s.toList) (runs t.toList) ≠ .eq →
      natural (p ++ d ++ s) (p ++ e ++ t) = natural s t) := by
  have hruns := compareRuns_numerals hp hd he hs ht
  simp only [natural, String.toList_append, hruns]
  constructor
  · intro hlt
    rw [Nat.compare_eq_lt.2 hlt]
    rfl
  · intro heq hne
    rw [Nat.compare_eq_eq.2 heq]
    -- the runs behind the numerals differ, so the names are not compared as texts
    cases hrest : compareRuns (runs s.toList) (runs t.toList) with
    | eq => exact absurd hrest hne
    | lt | gt => rfl

/-- A number that no machine integer holds, between letters outside ASCII. -/
theorem natural_append_numeral_long :
    value "0099999999999999999999".toList < value "100000000000000000000".toList ∧
    natural ("Δφ" ++ "0099999999999999999999" ++ ".pdf") ("Δφ" ++ "100000000000000000000" ++ ".pdf")
      = .lt ∧
    value "007".toList = value "7".toList ∧
    natural ("Δφ" ++ "007" ++ "²b") ("Δφ" ++ "7" ++ "²a") = .gt := by
  have hlong := natural_append_numeral (p := "Δφ") (d := "0099999999999999999999")
    (e := "100000000000000000000") (s := ".pdf") (t := ".pdf")
    (by decide) ⟨by decide, by decide⟩ ⟨by decide, by decide⟩ (by decide) (by decide)
  have hequal := natural_append_numeral (p := "Δφ") (d := "007") (e := "7") (s := "²b") (t := "²a")
    (by decide) ⟨by decide, by decide⟩ ⟨by decide, by decide⟩ (by decide) (by decide)
  refine ⟨by decide, hlong.1 (by decide), by decide, ?_⟩
  rw [hequal.2 (by decide) (by decide)]
  decide

end PlotDeck.Compare

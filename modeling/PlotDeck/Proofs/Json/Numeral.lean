import Mathlib.Data.List.TakeWhile
import Mathlib.Tactic.SplitIfs
import PlotDeck.Proofs.Json.Grammar

/-!
# Numbers of the grammar

A number is passed over as far as it goes (`Number.passNumber_append`), and found to be the same
wherever it stands (`valueOf_readNumber_append`), provided that what follows ends it (`Stops`).
-/

namespace PlotDeck.Json

open Decimal (Binary64)

variable {t rest : List Char}

/-! ### What ends a number -/

theorem eq_of_isSpace {c : Char} (h : isSpace c = true) :
    c = ' ' ∨ c = '\n' ∨ c = '\t' ∨ c = '\r' := by
  simpa [isSpace, or_assoc] using h

/-- What follows ends a number: it is space, a comma or a closing bracket, or there is nothing. -/
def Stops (t : List Char) : Prop :=
  ∀ c ∈ t.head?, isSpace c = true ∨ c = ',' ∨ c = ']' ∨ c = '\x7d'

theorem stops_nil : Stops [] := by simp [Stops]

theorem dropWhile_of_startsDigit (h : startsDigit t = false) : t.dropWhile Char.isDigit = t := by
  cases t with
  | nil => rfl
  | cons c r => exact List.dropWhile_cons_of_neg (Bool.eq_false_iff.1 h)

section Stops

variable (hrest : Stops rest)
include hrest

/-- No character that goes on with a number is one that ends it. -/
theorem Stops.head?_ne {c : Char} (hc : c.isDigit = true ∨ c ∈ ['.', 'e', 'E', '+', '-']) :
    rest.head? ≠ some c := by
  intro hhead
  obtain hspace | rfl | rfl | rfl := hrest c hhead
  · obtain rfl | rfl | rfl | rfl := eq_of_isSpace hspace <;> revert hc <;> decide
  all_goals revert hc; decide

theorem Stops.startsDigit : startsDigit rest = false := by
  cases rest with
  | nil => rfl
  | cons c r =>
    exact Bool.eq_false_iff.2 fun hc => hrest.head?_ne (.inl hc) rfl

theorem Stops.startsExponent : startsExponent rest = false := by
  cases rest with
  | nil => rfl
  | cons c r =>
    have he : c ≠ 'e' := fun hc => hrest.head?_ne (.inr (by simp [hc])) rfl
    have hE : c ≠ 'E' := fun hc => hrest.head?_ne (.inr (by simp [hc])) rfl
    simp [Json.startsExponent, he, hE]

theorem Stops.startsDigit_append (t : List Char) :
    Json.startsDigit (t ++ rest) = Json.startsDigit t := by
  cases t with
  | nil => exact hrest.startsDigit
  | cons c t => rfl

theorem Stops.startsExponent_append (t : List Char) :
    Json.startsExponent (t ++ rest) = Json.startsExponent t := by
  cases t with
  | nil => exact hrest.startsExponent
  | cons c t => rfl

theorem Stops.dropWhile_append (t : List Char) :
    (t ++ rest).dropWhile Char.isDigit = t.dropWhile Char.isDigit ++ rest := by
  rw [List.dropWhile_append, dropWhile_of_startsDigit hrest.startsDigit]
  split
  · next hempty => rw [List.isEmpty_iff.1 hempty, List.nil_append]
  · rfl

theorem Stops.takeWhile_append (t : List Char) :
    (t ++ rest).takeWhile Char.isDigit = t.takeWhile Char.isDigit := by
  have hnil : rest.takeWhile Char.isDigit = [] := by
    cases rest with
    | nil => rfl
    | cons c r => exact List.takeWhile_cons_of_neg (Bool.eq_false_iff.1 hrest.startsDigit)
  rw [List.takeWhile_append, hnil, List.append_nil]
  split
  · next hall => exact ((List.takeWhile_prefix _).eq_of_length hall).symm
  · rfl

end Stops

/-! ### Reading is local -/

/-- What is read, without what is left after it. -/
def valueOf (read : Except Fault (Found × List Char)) : Option Found := read.toOption.map Prod.fst

theorem valueOf_floatOf (negative : Bool) (n : Nat) (exponent : Int) (t t' : List Char) :
    valueOf (floatOf negative n exponent t) = valueOf (floatOf negative n exponent t') := by
  rw [floatOf, floatOf]
  cases scale 4 (Binary64.ofNat n) exponent <;> rfl

section Local

variable (hrest : Stops rest)
include hrest

theorem takeDigits_append (n : Nat) (t : List Char) :
    takeDigits n (t ++ rest)
      = ((takeDigits n t).1, (takeDigits n t).2.1, (takeDigits n t).2.2 ++ rest) := by
  induction t generalizing n with
  | nil =>
    cases rest with
    | nil => rfl
    | cons c r =>
      have hc : c.isDigit = false := hrest.startsDigit
      simp [takeDigits, hc]
  | cons c t ih =>
    rw [List.cons_append, takeDigits, takeDigits, ih]
    split <;> rfl

theorem valueOf_readExponentDigits_append (negative : Bool) (n : Nat) (base : Int) (positive : Bool)
    (e : Nat) (t : List Char) :
    valueOf (readExponentDigits negative n base positive e (t ++ rest))
      = valueOf (readExponentDigits negative n base positive e t) := by
  induction t generalizing e with
  | nil =>
    cases rest with
    | nil => rfl
    | cons c r =>
      have hc : c.isDigit = false := hrest.startsDigit
      have hend : readExponentDigits negative n base positive e (c :: r)
          = floatOf negative n (if positive then base + e else base - e) (c :: r) := by
        rw [readExponentDigits, if_neg (Bool.eq_false_iff.1 hc)]
      rw [List.nil_append, hend]
      exact valueOf_floatOf _ _ _ _ _
  | cons c t ih =>
    rw [List.cons_append, readExponentDigits, readExponentDigits]
    dsimp only
    split_ifs
    · rfl
    · rfl
    · exact ih _
    all_goals exact valueOf_floatOf _ _ _ _ _

theorem exponentSign_append (t : List Char) :
    exponentSign (t ++ rest) = ((exponentSign t).1, (exponentSign t).2 ++ rest) := by
  have hplus := hrest.head?_ne (c := '+') (.inr (by decide))
  have hminus := hrest.head?_ne (c := '-') (.inr (by decide))
  cases t with
  | nil =>
    rw [List.nil_append, exponentSign.eq_def]
    split
    · exact absurd rfl hplus
    · exact absurd rfl hminus
    · rfl
  | cons c t =>
    rw [List.cons_append, exponentSign.eq_def, exponentSign.eq_def (c :: t)]
    split <;> split <;> simp_all

theorem valueOf_readExponent_append (negative : Bool) (n : Nat) (base : Int) (t : List Char) :
    valueOf (readExponent negative n base (t ++ rest))
      = valueOf (readExponent negative n base t) := by
  rw [readExponent, readExponent, exponentSign_append hrest]
  obtain ⟨positive, t'⟩ := exponentSign t
  cases t' with
  | cons c t' =>
    dsimp only [List.cons_append]
    split_ifs
    · exact valueOf_readExponentDigits_append hrest _ _ _ _ _ (c :: t')
    · rfl
  | nil =>
    cases rest with
    | nil => rfl
    | cons c r =>
      have hc : c.isDigit = false := hrest.startsDigit
      simp [valueOf, hc, Except.toOption]

theorem valueOf_readMantissaEnd_append (negative : Bool) (n : Nat) (base : Int) (t : List Char) :
    valueOf (readMantissaEnd negative n base (t ++ rest))
      = valueOf (readMantissaEnd negative n base t) := by
  rw [readMantissaEnd, readMantissaEnd, hrest.startsExponent_append]
  cases t with
  | nil => exact valueOf_floatOf _ _ _ _ _
  | cons c t =>
    split_ifs
    · exact valueOf_readExponent_append hrest _ _ _ t
    · exact valueOf_floatOf _ _ _ _ _

theorem valueOf_readFraction_append (negative : Bool) (n : Nat) (base : Int) (t : List Char) :
    valueOf (readFraction negative n base (t ++ rest))
      = valueOf (readFraction negative n base t) := by
  cases t with
  | nil =>
    cases rest with
    | nil => rfl
    | cons c r =>
      have hc : c.isDigit = false := hrest.startsDigit
      simp [readFraction, valueOf, hc, Except.toOption]
  | cons c t =>
    rw [readFraction.eq_def, readFraction.eq_def]
    dsimp only [List.cons_append]
    split_ifs
    · have htake := takeDigits_append hrest n (c :: t)
      rw [List.cons_append] at htake
      rw [htake]
      dsimp only
      rw [hrest.dropWhile_append]
      exact valueOf_readMantissaEnd_append hrest _ _ _ _
    · rfl

theorem valueOf_readWholeEnd_append (negative : Bool) (n : Nat) (t : List Char) :
    valueOf (readWholeEnd negative n (t ++ rest)) = valueOf (readWholeEnd negative n t) := by
  have hend : ∀ t : List Char, t.head? ≠ some '.' → readWholeEnd negative n t
      = if startsExponent t then readExponent negative n 0 (t.drop 1)
        else if !negative then .ok (.integer n, t)
        else if n = 0 ∨ Nat.pow 2 63 < n then .ok (.float (Binary64.ofNat n).neg, t)
        else .ok (.integer (-n), t) := by
    intro t ht
    rw [readWholeEnd.eq_def]
    split
    · exact absurd rfl ht
    · rfl
  cases t with
  | nil =>
    rw [List.nil_append, hend rest (hrest.head?_ne (.inr (by decide))), hend [] (by simp),
      hrest.startsExponent]
    cases negative
    · rfl
    · by_cases hn : n = 0 ∨ Nat.pow 2 63 < n
      · simp [valueOf, Except.toOption, startsExponent, hn]
      · simp [valueOf, Except.toOption, startsExponent, hn]
  | cons c t =>
    by_cases hc : c = '.'
    · subst hc
      exact valueOf_readFraction_append hrest negative n 0 t
    · have hne : ∀ r, (c :: r).head? ≠ some '.' := by simpa using hc
      have hmark : startsExponent (c :: (t ++ rest)) = startsExponent (c :: t) := rfl
      rw [List.cons_append, hend _ (hne _), hend _ (hne _), hmark]
      split_ifs
      · exact valueOf_readExponent_append hrest _ _ _ t
      all_goals rfl

/-- Digits beyond 64 bits do not keep a number from going on. -/
theorem valueOf_readLongEnd_append (negative : Bool) (n : Nat) (base : Int) (t : List Char) :
    valueOf (match t ++ rest with
      | '.' :: r => readFraction negative n base r
      | r => readMantissaEnd negative n base r)
    = valueOf (match t with
      | '.' :: r => readFraction negative n base r
      | r => readMantissaEnd negative n base r) := by
  have hpoint := hrest.head?_ne (c := '.') (.inr (by decide))
  cases t with
  | nil =>
    rw [List.nil_append]
    split
    · exact absurd rfl hpoint
    · exact valueOf_readMantissaEnd_append hrest negative n base []
  | cons c t =>
    by_cases hc : c = '.'
    · subst hc
      exact valueOf_readFraction_append hrest negative n base t
    · rw [List.cons_append]
      split
      · next heq => exact absurd (List.cons.inj heq).1 hc
      · split
        · next heq => exact absurd (List.cons.inj heq).1 hc
        · exact valueOf_readMantissaEnd_append hrest negative n base (c :: t)

/-- A number is the same wherever it stands. -/
theorem valueOf_readNumber_append (negative : Bool) (t : List Char) :
    valueOf (readNumber negative (t ++ rest)) = valueOf (readNumber negative t) := by
  have hfirst : ∀ (c : Char) (r : List Char), c ≠ '0' → readNumber negative (c :: r)
      = if c.isDigit then
          if startsDigit (takeDigits 0 (c :: r)).2.2 then
            match (takeDigits 0 (c :: r)).2.2.dropWhile Char.isDigit with
            | '.' :: r' => readFraction negative (takeDigits 0 (c :: r)).1
                ((takeDigits 0 (c :: r)).2.2.takeWhile Char.isDigit).length r'
            | r' => readMantissaEnd negative (takeDigits 0 (c :: r)).1
                ((takeDigits 0 (c :: r)).2.2.takeWhile Char.isDigit).length r'
          else readWholeEnd negative (takeDigits 0 (c :: r)).1 (takeDigits 0 (c :: r)).2.2
        else .error (.inByte .invalidNumber (c :: r)) := by
    intro c r hc
    rw [readNumber.eq_def]
    split
    · next heq => cases heq
    · next heq => exact absurd (List.cons.inj heq).1 hc
    · next heq =>
      obtain ⟨rfl, rfl⟩ := List.cons.inj heq
      rfl
  -- a zero is the whole part by itself; another digit may start a long one
  cases t with
  | nil =>
    cases rest with
    | nil => rfl
    | cons c r =>
      have hc : c.isDigit = false := hrest.startsDigit
      have hzero : c ≠ '0' := by
        rintro rfl
        exact absurd hc (by decide)
      rw [List.nil_append, hfirst c r hzero, if_neg (Bool.eq_false_iff.1 hc)]
      rfl
  | cons c t =>
    by_cases hc : c = '0'
    · subst hc
      rw [List.cons_append, readNumber, readNumber, hrest.startsDigit_append]
      split_ifs
      · rfl
      · exact valueOf_readWholeEnd_append hrest negative 0 t
    · have htake := takeDigits_append hrest 0 (c :: t)
      rw [List.cons_append] at htake
      rw [List.cons_append, hfirst c _ hc, hfirst c _ hc, htake]
      dsimp only
      rw [hrest.startsDigit_append, hrest.takeWhile_append, hrest.dropWhile_append]
      split_ifs
      · exact valueOf_readLongEnd_append hrest _ _ _ _
      · exact valueOf_readWholeEnd_append hrest _ _ _
      · rfl

end Local

/-! ### What is read is a number -/

/-- A number was found. -/
inductive IsNumber : Found → Prop
  /-- A whole number. -/
  | integer (n : Int) : IsNumber (.integer n)
  /-- A number with a fraction or an exponent. -/
  | float (x : Binary64) : IsNumber (.float x)

section IsNumber

variable {negative : Bool} {n : Nat} {f : Found} {r : List Char}

theorem isNumber_of_floatOf {exponent : Int} (h : floatOf negative n exponent t = .ok (f, r)) :
    IsNumber f := by
  rw [floatOf] at h
  split at h
  · cases h
    exact .float _
  · cases h

theorem isNumber_of_readExponentDigits {base : Int} {positive : Bool} {e : Nat}
    (h : readExponentDigits negative n base positive e t = .ok (f, r)) : IsNumber f := by
  induction t generalizing e with
  | nil => exact isNumber_of_floatOf h
  | cons c t ih =>
    rw [readExponentDigits] at h
    dsimp only at h
    split at h
    · split at h
      · split at h
        · cases h
        · cases h
          exact .float _
      · exact ih h
    · exact isNumber_of_floatOf h

theorem isNumber_of_readExponent {base : Int} (h : readExponent negative n base t = .ok (f, r)) :
    IsNumber f := by
  rw [readExponent] at h
  split at h
  · cases h
  · split at h
    · exact isNumber_of_readExponentDigits h
    · cases h

theorem isNumber_of_readMantissaEnd {base : Int}
    (h : readMantissaEnd negative n base t = .ok (f, r)) : IsNumber f := by
  rw [readMantissaEnd] at h
  split at h
  · exact isNumber_of_readExponent h
  · exact isNumber_of_floatOf h

theorem isNumber_of_readFraction {base : Int} (h : readFraction negative n base t = .ok (f, r)) :
    IsNumber f := by
  rw [readFraction.eq_def] at h
  split at h
  · cases h
  · split at h
    · exact isNumber_of_readMantissaEnd h
    · cases h

theorem isNumber_of_readWholeEnd (h : readWholeEnd negative n t = .ok (f, r)) : IsNumber f := by
  rw [readWholeEnd.eq_def] at h
  split at h
  · exact isNumber_of_readFraction h
  · split at h
    · exact isNumber_of_readExponent h
    · split at h
      · cases h
        exact .integer _
      · split at h <;> cases h
        · exact .float _
        · exact .integer _

theorem isNumber_of_readNumber (h : readNumber negative t = .ok (f, r)) : IsNumber f := by
  rw [readNumber.eq_def] at h
  split at h
  · cases h
  · split at h
    · cases h
    · exact isNumber_of_readWholeEnd h
  · split at h
    · dsimp only at h
      split at h
      · split at h
        · exact isNumber_of_readFraction h
        · exact isNumber_of_readMantissaEnd h
      · exact isNumber_of_readWholeEnd h
    · cases h

end IsNumber

theorem Number.isNumber_of_found? {n : Number} {f : Found} (h : n.found? = some f) :
    IsNumber f := by
  obtain ⟨⟨f, r⟩, hread, rfl⟩ := Option.map_eq_some_iff.1 h
  cases hnumber : readNumber n.negative n.unsigned with
  | error fault => rw [hnumber] at hread; cases hread
  | ok p =>
    rw [hnumber] at hread
    obtain rfl := Option.some.inj hread
    exact isNumber_of_readNumber hnumber

/-! ### Numbers are passed over -/

theorem Digits.exists_eq_cons (ds : Digits) : ∃ c r, ds.text = c :: r ∧ c.isDigit = true := by
  obtain ⟨c, r, htext⟩ := List.exists_cons_of_ne_nil ds.notEmpty
  exact ⟨c, r, htext, ds.areDigits c (by simp [htext])⟩

theorem Digits.startsDigit_append (ds : Digits) (t : List Char) :
    startsDigit (ds.text ++ t) = true := by
  obtain ⟨c, r, htext, hc⟩ := ds.exists_eq_cons
  rw [htext]
  exact hc

theorem Digits.dropWhile_append (ds : Digits) (t : List Char) :
    (ds.text ++ t).dropWhile Char.isDigit = t.dropWhile Char.isDigit :=
  List.dropWhile_append_of_pos ds.areDigits

theorem exponentSign_signText (sign : Option Bool) (ds : Digits) (t : List Char) :
    (exponentSign (signText sign ++ (ds.text ++ t))).2 = ds.text ++ t := by
  obtain ⟨c, r, htext, hc⟩ := ds.exists_eq_cons
  match sign with
  | some true => rfl
  | some false => rfl
  | none =>
    rw [signText, htext, List.nil_append, List.cons_append, exponentSign.eq_def]
    split
    · next heq => rw [(List.cons.inj heq).1] at hc; exact absurd hc (by decide)
    · next heq => rw [(List.cons.inj heq).1] at hc; exact absurd hc (by decide)
    · rfl

section Pass

variable (hrest : Stops rest)
include hrest

theorem passExponent_append (sign : Option Bool) (ds : Digits) :
    passExponent (signText sign ++ (ds.text ++ rest)) = .ok rest := by
  have hdrop : (ds.text ++ rest).dropWhile Char.isDigit = rest := by
    rw [ds.dropWhile_append, dropWhile_of_startsDigit hrest.startsDigit]
  obtain ⟨c, r, htext, hc⟩ := ds.exists_eq_cons
  rw [passExponent, exponentSign_signText]
  rw [htext, List.cons_append, List.dropWhile_cons_of_pos hc] at hdrop
  rw [htext]
  dsimp only [List.cons_append]
  rw [if_pos hc, hdrop]

/-- An exponent does not start with a digit. -/
theorem startsDigit_exponentText (e : Option Exponent) :
    startsDigit (exponentText e ++ rest) = false := by
  rcases e with _ | ⟨mark, rfl | rfl, sign, digits⟩
  · exact hrest.startsDigit
  · rfl
  · rfl

theorem passExponentEnd (e : Option Exponent) :
    (if startsExponent (exponentText e ++ rest) then passExponent ((exponentText e ++ rest).drop 1)
      else .ok (exponentText e ++ rest)) = .ok rest := by
  rcases e with _ | ⟨mark, hmark, sign, digits⟩
  · rw [exponentText, List.nil_append, hrest.startsExponent]
    rfl
  · have hstarts : startsExponent (exponentText (some ⟨mark, hmark, sign, digits⟩) ++ rest)
        = true := by
      rcases hmark with rfl | rfl <;> rfl
    rw [hstarts, if_pos rfl, exponentText, List.cons_append, List.append_assoc]
    exact passExponent_append hrest sign digits

theorem passFraction_append (ds : Digits) (e : Option Exponent) :
    passFraction (ds.text ++ (exponentText e ++ rest)) = .ok rest := by
  rw [passFraction, ds.startsDigit_append, if_pos rfl]
  dsimp only
  rw [ds.dropWhile_append, dropWhile_of_startsDigit (startsDigit_exponentText hrest e)]
  exact passExponentEnd hrest e

/-- What follows the whole part does not start with a digit. -/
theorem startsDigit_fractionText (f : Option Digits) (e : Option Exponent) :
    startsDigit (fractionText f ++ (exponentText e ++ rest)) = false := by
  cases f with
  | none => exact startsDigit_exponentText hrest e
  | some ds => rfl

theorem passWholeEnd_append (f : Option Digits) (e : Option Exponent) :
    passWholeEnd (fractionText f ++ (exponentText e ++ rest)) = .ok rest := by
  cases f with
  | some ds => exact passFraction_append hrest ds e
  | none =>
    have hpoint : (exponentText e ++ rest).head? ≠ some '.' := by
      rcases e with _ | ⟨mark, rfl | rfl, sign, digits⟩
      · exact hrest.head?_ne (.inr (by decide))
      · simp [exponentText]
      · simp [exponentText]
    rw [fractionText, List.nil_append, passWholeEnd.eq_def]
    split
    · next heq => exact absurd (congrArg List.head? heq) hpoint
    · exact passExponentEnd hrest e

/-- A number is passed over. -/
theorem Number.passNumber_append (n : Number) : passNumber (n.unsigned ++ rest) = .ok rest := by
  obtain ⟨c, r, htext, hc⟩ := n.whole.exists_eq_cons
  let after := fractionText n.fraction ++ (exponentText n.exponent ++ rest)
  have hafter : startsDigit after = false := startsDigit_fractionText hrest n.fraction n.exponent
  have hend : passWholeEnd after = .ok rest := passWholeEnd_append hrest n.fraction n.exponent
  have hunsigned : n.unsigned ++ rest = c :: (r ++ after) := by
    rw [unsigned, htext, List.append_assoc, List.append_assoc]
    rfl
  rw [hunsigned]
  by_cases hzero : c = '0'
  · obtain rfl : r = [] := n.noNeedlessZero r (hzero ▸ htext)
    subst hzero
    rw [List.nil_append, passNumber, hafter]
    exact hend
  · have hdrop : (r ++ after).dropWhile Char.isDigit = after := by
      rw [List.dropWhile_append_of_pos fun d hd => n.whole.areDigits d (by simp [htext, hd]),
        dropWhile_of_startsDigit hafter]
    rw [passNumber.eq_def]
    split
    · next heq => cases heq
    · next heq => exact absurd (List.cons.inj heq).1 hzero
    · next heq =>
      obtain ⟨rfl, rfl⟩ := List.cons.inj heq
      rw [if_pos hc, hdrop, hend]

/-- A number is found to be the same wherever it stands. -/
theorem Number.exists_numberNode (n : Number) :
    ∃ value, numberNode n.negative (n.unsigned ++ rest) = .scalar value rest ∧
      value.toOption = n.found? := by
  refine ⟨_, by rw [numberNode, n.passNumber_append hrest, scalarNode_ok], ?_⟩
  rw [toOption_map]
  exact valueOf_readNumber_append hrest n.negative n.unsigned

end Pass

/-! ### What is passed over is a number -/

/-- Digits at the start of a text. -/
theorem exists_digits (h : startsDigit t = true) :
    ∃ ds : Digits, t = ds.text ++ t.dropWhile Char.isDigit := by
  cases t with
  | nil => cases h
  | cons c r =>
    have hc : c.isDigit = true := h
    refine ⟨⟨(c :: r).takeWhile Char.isDigit, fun d hd => List.mem_takeWhile_imp hd, ?_⟩, ?_⟩
    · rw [List.takeWhile_cons_of_pos hc]
      exact List.cons_ne_nil _ _
    · exact List.takeWhile_append_dropWhile.symm

section Complete

variable {r : List Char}

theorem exists_of_passExponent (h : passExponent t = .ok r) :
    ∃ (sign : Option Bool) (ds : Digits), t = signText sign ++ (ds.text ++ r) := by
  have hsign : ∃ sign, t = signText sign ++ (exponentSign t).2 := by
    rw [exponentSign.eq_def]
    split
    · exact ⟨some true, rfl⟩
    · exact ⟨some false, rfl⟩
    · exact ⟨none, rfl⟩
  obtain ⟨sign, hsign⟩ := hsign
  rw [passExponent] at h
  cases hdigits : (exponentSign t).2 with
  | nil => simp [hdigits] at h
  | cons c r' =>
    rw [hdigits] at h hsign
    dsimp only at h
    split at h
    · next hc =>
      obtain ⟨ds, hds⟩ := exists_digits (t := c :: r') hc
      rw [List.dropWhile_cons_of_pos hc, Except.ok.inj h] at hds
      exact ⟨sign, ds, hds ▸ hsign⟩
    · cases h

theorem exists_of_passExponentEnd
    (h : (if startsExponent t then passExponent (t.drop 1) else .ok t) = .ok r) :
    ∃ e, t = exponentText e ++ r := by
  split at h
  · next hmark =>
    cases t with
    | nil => cases hmark
    | cons c t =>
      have hc : c = 'e' ∨ c = 'E' := by simpa [startsExponent] using hmark
      obtain ⟨sign, ds, ht⟩ := exists_of_passExponent h
      exact ⟨some ⟨c, hc, sign, ds⟩, by simpa [exponentText] using ht⟩
  · exact ⟨none, Except.ok.inj h⟩

theorem exists_of_passFraction (h : passFraction t = .ok r) :
    ∃ (ds : Digits) (e : Option Exponent), t = ds.text ++ (exponentText e ++ r) := by
  rw [passFraction] at h
  split at h
  · next hdigit =>
    obtain ⟨ds, hds⟩ := exists_digits hdigit
    obtain ⟨e, he⟩ := exists_of_passExponentEnd h
    exact ⟨ds, e, he ▸ hds⟩
  · cases h

theorem exists_of_passWholeEnd (h : passWholeEnd t = .ok r) :
    ∃ (f : Option Digits) (e : Option Exponent), t = fractionText f ++ (exponentText e ++ r) := by
  rw [passWholeEnd.eq_def] at h
  split at h
  · obtain ⟨ds, e, ht⟩ := exists_of_passFraction h
    exact ⟨some ds, e, congrArg (List.cons '.') ht⟩
  · obtain ⟨e, ht⟩ := exists_of_passExponentEnd h
    exact ⟨none, e, ht⟩

/-- What is passed over is a number of the grammar. -/
theorem exists_of_passNumber (negative : Bool) (h : passNumber t = .ok r) :
    ∃ n : Number, n.negative = negative ∧ t = n.unsigned ++ r := by
  rw [passNumber.eq_def] at h
  split at h
  · cases h
  · split at h
    · cases h
    · obtain ⟨f, e, ht⟩ := exists_of_passWholeEnd h
      refine ⟨⟨negative, ⟨['0'], by decide, by decide⟩, by simp, f, e⟩, rfl, ?_⟩
      simp [Number.unsigned, ht]
  · next c t' hzero =>
    split at h
    · next hc =>
      obtain ⟨f, e, ht⟩ := exists_of_passWholeEnd h
      obtain ⟨ds, hds⟩ := exists_digits (t := c :: t') hc
      rw [List.dropWhile_cons_of_pos hc, ht] at hds
      refine ⟨⟨negative, ds, fun r hr => ?_, f, e⟩, rfl, ?_⟩
      · rw [hr] at hds
        exact absurd (List.cons.inj hds).1 hzero
      · exact hds.trans (by simp only [Number.unsigned, List.append_assoc])
    · cases h

end Complete

end PlotDeck.Json
